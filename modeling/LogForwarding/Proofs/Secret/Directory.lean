import LogForwarding.Secret.Directory
import LogForwarding.Proofs.File.Walk
import LogForwarding.Proofs.Secret.Volume

/-!
# Looking secrets up in a directory

A directory of secrets (`SecretRoot`) is told from the volume that it holds: the volume has the
folders and files that its entries lead to, all links followed, and leaves out anything else, such
as pipes. Looking a name up asks the file system for one path under the directory and, where a
folder is there, for the files in it, in whatever order it lists them (`Files.Shows`). If everything
that can be a secret is readable (`SecretRoot.IsReadable`), the answer is what the table of the
volume has under that name, for every name that the system takes (`SecretRoot.Admits`). It does not
take any other name, and the look-up fails.

## What is proved

* `SecretDirectory.value_entries_of_ok`: the files of a folder in whatever order they are listed.
* `SecretDirectory.lookup_of_not_isSecretName`: names that no secret can have.
* `SecretRoot.lookup_of_admits`: names that the system takes.
* `SecretRoot.lookup_of_not_admits`: names that it does not take.
* `SecretRoot.exists_lookup_eq_ok_iff`, `SecretRoot.lookup_eq_error_iff`: all names.
-/

namespace LogForwarding

open FileName (ofText)

/-! ### What entries lead to -/

/-- Names of entries with what is found under them. -/
def namesWith {α β : Type} (found : FileName → Option β) (entries : List (FileName × α)) :
    List (FileName × β) :=
  entries.filterMap fun entry => (found entry.1).map (entry.1, ·)

section NamesWith

variable {α β : Type} {found : FileName → Option β} {entries : List (FileName × α)}

theorem lookup_namesWith (name : FileName) : (namesWith found entries).lookup name =
    if name ∈ entries.map Prod.fst then found name else none := by
  unfold namesWith
  induction entries with
  | nil => rfl
  | cons entry rest ih =>
    simp only [List.filterMap_cons, List.map_cons, List.mem_cons]
    by_cases hname : name = entry.1
    · subst hname
      cases hfound : found entry.1 with
      | none => simp [ih, hfound]
      | some value => simp
    · have hbeq : (name == entry.1) = false := beq_eq_false_iff_ne.2 hname
      simp only [or_iff_right hname]
      cases found entry.1 with
      | none => exact ih
      | some value => simpa only [Option.map_some, List.lookup_cons, hbeq] using ih

theorem nodup_namesWith (h : (entries.map Prod.fst).Nodup) :
    ((namesWith found entries).map Prod.fst).Nodup := by
  unfold namesWith
  rw [List.Nodup, List.pairwise_map, List.pairwise_filterMap]
  refine (List.pairwise_map.1 h).imp fun hne pair hpair other hother => ?_
  obtain ⟨_, -, rfl⟩ := Option.map_eq_some_iff.1 hpair
  obtain ⟨_, -, rfl⟩ := Option.map_eq_some_iff.1 hother
  exact hne

end NamesWith

namespace FileTree

/-- The bytes of a file. -/
def content? : FileTree → Option ByteArray
  | file content => some content
  | _ => none

/-- The bytes of the file that an entry leads to, if it leads to one. -/
def contentAt? (world : FileTree) (spot : Spot) (name : FileName) : Option ByteArray :=
  (world.walk spot [name] >>= world.there).toOption.bind content?

/-- The files of the directory at a spot, if there is one. -/
def folder? (world : FileTree) (spot : Spot) : Option Folder :=
  match world.below? spot.place with
  | some (directory entries) => some (namesWith (world.contentAt? spot) entries)
  | _ => none

/-- The folder that an entry leads to, if it leads to one. -/
def folderAt? (world : FileTree) (spot : Spot) (name : FileName) : Option Folder :=
  (world.walk spot [name]).toOption.bind world.folder?

end FileTree

/-- Whether files are those of a tree, the entries of directories listed in any order. -/
structure Files.Shows (files : Files) (world : FileTree) (working : List FileName) : Prop where
  /-- What is under a path is the same. -/
  metadata : files.metadata = (world.files working).metadata
  /-- The bytes of a file are the same. -/
  read : files.read = (world.files working).read
  /-- The names in a directory are the same, in any order. -/
  names : ∀ path listed, (world.files working).names path = .ok listed →
    ∃ seen, files.names path = .ok seen ∧ seen.Perm listed

theorem FileTree.shows_files (world : FileTree) (working : List FileName) :
    (world.files working).Shows world working :=
  ⟨rfl, rfl, fun _ listed h => ⟨listed, h, .refl _⟩⟩

/-- Files whose directories list their entries the other way round. -/
def Files.backwards (files : Files) : Files :=
  { files with names := fun path => List.reverse <$> files.names path }

theorem Files.Shows.backwards {files : Files} {world : FileTree} {working : List FileName}
    (h : files.Shows world working) : files.backwards.Shows world working where
  metadata := h.metadata
  read := h.read
  names := by
    intro path listed hlisted
    obtain ⟨seen, hseen, hperm⟩ := h.names path listed hlisted
    exact ⟨seen.reverse, map_eq_ok_iff.2 ⟨seen, hseen, rfl⟩, seen.reverse_perm.trans hperm⟩

/-! ### The files of a folder -/

namespace SecretDirectory

theorem isSecretName_iff {name : String} : isSecretName name ↔
    name ≠ "" ∧ name.toList.head? ≠ some '.' ∧ '/' ∉ name.toList ∧ '\\' ∉ name.toList := by
  simp [isSecretName, and_assoc]

/-- A name that a secret can have is more than dots. -/
theorem ofText_ne_of_isSecretName {name : String} (h : isSecretName name) :
    ofText name ≠ [] ∧ ofText name ≠ [0x2E] ∧ ofText name ≠ [0x2E, 0x2E] := by
  obtain ⟨hname, hhidden, -, -⟩ := isSecretName_iff.1 h
  have hdot : ∀ text, ofText name = ofText text → text.toList.head? ≠ some '.' := by
    intro text heq
    rwa [← FileName.ofText_inj.1 heq]
  refine ⟨mt FileName.ofText_eq_nil_iff.1 hname, fun heq => ?_, fun heq => ?_⟩
  · exact hdot "." (heq.trans FileName.ofText_dot.symm) rfl
  · exact hdot ".." (heq.trans FileName.ofText_dots.symm) rfl

variable {files : Files}

/-- The entry under a name in a listing, if the name is shown and there is a file under it. -/
def shownKey? (content? : String → Option ByteArray) :
    Option String → Option (String × ByteArray)
  | none => none
  | some key =>
    if key.toList.head? = some '.' then none else (content? key).map (key, ·)

/-- **The files of a folder** are put into the secret one by one, where all of them can be
read. -/
theorem value_entries_of_ok {directory : String} {content? : String → Option ByteArray}
    {listing : List (Option String)} {secret : Secret}
    (h : ∀ key, some key ∈ listing → key.toList.head? ≠ some '.' →
      entry files secret.name (Path.join directory key) key = .ok (content? key)) :
    (entries files directory secret listing).value =
      .ok { secret with
        data := (listing.filterMap (shownKey? content?)).foldl
          (fun data (key, content) => data.insert key content) secret.data } := by
  induction listing generalizing secret with
  | nil => rfl
  | cons listed rest ih =>
    have hrest := fun key hmem => h key (List.mem_cons_of_mem listed hmem)
    cases listed with
    | none =>
      rw [entries, Traced.value_bind, ih hrest, List.filterMap_cons_none rfl]
    | some key =>
      by_cases hhidden : key.toList.head? = some '.'
      · have hnone : shownKey? content? (some key) = none := if_pos hhidden
        rw [entries, if_pos hhidden, ih hrest, List.filterMap_cons_none hnone]
      · have hshown : shownKey? content? (some key) = (content? key).map (key, ·) :=
          if_neg hhidden
        rw [entries, if_neg hhidden, h key List.mem_cons_self hhidden]
        cases hcontent : content? key with
        | none =>
          rw [hcontent] at hshown
          rw [List.filterMap_cons_none hshown, ← ih hrest]
        | some content =>
          rw [hcontent] at hshown
          rw [List.filterMap_cons_some hshown, List.foldl_cons]
          exact @ih { secret with data := secret.data.insert key content } hrest

/-- What an entry is read as, where something is under its path that is not too large. -/
theorem entry_of_find {world : FileTree} {working : List FileName}
    (hshows : files.Shows world working) {secret path key : String} {tree : FileTree}
    (hfind : world.find working path = .ok tree) (hsize : tree.metadata.size ≤ sizeLimit) :
    entry files secret path key = .ok tree.content? := by
  have hmetadata : files.metadata path = .ok tree.metadata := by
    rw [hshows.metadata]
    exact congrArg (FileTree.metadata <$> ·) hfind
  have hread : files.read path = tree.read := by
    rw [hshows.read]
    exact congrArg (· >>= FileTree.read) hfind
  unfold entry
  rw [hmetadata]
  cases tree with
  | file content =>
    dsimp only
    rw [if_neg (by simp [FileTree.metadata]), if_neg (Nat.not_lt.2 hsize), hread]
    rfl
  | directory _ | link _ | special _ => rfl

end SecretDirectory

/-! ### Looking a name up -/

namespace SecretDirectory

variable {files : Files} {path name : String}

theorem lookup_of_not_isSecretName (h : ¬isSecretName name) :
    lookup files path name = .ok none := by
  unfold lookup inspect
  rw [if_pos (by simpa using h)]

theorem lookup_of_notFound (hsecret : isSecretName name)
    (h : files.metadata (Path.join path name) = .error .notFound) :
    lookup files path name = .ok none := by
  unfold lookup inspect
  simp only [hsecret, h, Bool.not_true, Bool.false_eq_true, if_false]

/-- An error other than that there is nothing is a failure of the look-up. -/
theorem lookup_of_error (hsecret : isSecretName name) {error : FileError}
    (h : files.metadata (Path.join path name) = .error error) (hne : error ≠ .notFound) :
    lookup files path name = .error (.unavailable name error.message) := by
  unfold lookup inspect
  cases error with
  | notFound => exact absurd rfl hne
  | _ => simp only [hsecret, h, Bool.not_true, Bool.false_eq_true, if_false]

theorem lookup_of_not_directory (hsecret : isSecretName name) {metadata : Metadata}
    (h : files.metadata (Path.join path name) = .ok metadata) (hkind : metadata.kind ≠ .directory) :
    lookup files path name = .ok none := by
  unfold lookup inspect
  simp only [hsecret, h, Bool.not_true, Bool.false_eq_true, if_false]
  rw [if_pos (bne_iff_ne.2 hkind)]

theorem lookup_of_directory (hsecret : isSecretName name) {metadata : Metadata}
    (h : files.metadata (Path.join path name) = .ok metadata) (hkind : metadata.kind = .directory) :
    lookup files path name = some <$> (readSecret files (Path.join path name) name).value := by
  unfold lookup inspect
  simp only [hsecret, h, hkind, Bool.not_true, Bool.false_eq_true, if_false, bne_self_eq_false,
    Traced.value_bind]
  cases (readSecret files (Path.join path name) name).value <;> rfl

end SecretDirectory

/-! ### Directories of secrets -/

/-- A directory of secrets in a world: a path that leads to a directory. -/
structure SecretRoot where
  /-- The file system. -/
  world : FileTree
  /-- The directory that paths start from. -/
  working : List FileName
  /-- The path of the directory of secrets. -/
  path : String
  /-- Where it leads. -/
  spot : FileTree.Spot
  /-- The entries of the directory there. -/
  entries : List (FileName × FileTree)
  /-- The file system can be one. -/
  wellFormed : world.WellFormed
  /-- The path can be one. -/
  zero_notMem : '\x00' ∉ path.toList
  /-- The path leads there. -/
  lead_eq : world.lead working path = .ok spot
  /-- A directory is there. -/
  below?_eq : world.below? spot.place = some (.directory entries)

namespace SecretRoot

open FileTree SecretDirectory

variable (root : SecretRoot)

/-- **What a directory of secrets holds**: its folders with their files, all links followed. -/
def volume : Volume := namesWith (root.world.folderAt? root.spot) root.entries

/-- The table of the secrets that a directory holds. -/
def table : SecretTable := .ofVolume root.volume

/-- Whether the system takes a name as that of an entry of the directory. -/
structure Admits (name : String) : Prop where
  /-- The name has no character in it that no path can have. -/
  zero_notMem : '\x00' ∉ name.toList
  /-- The name is not too long. -/
  length_le : name.utf8ByteSize ≤ nameLimit
  /-- The path is not too long. -/
  fits : (Path.join root.path name).utf8ByteSize ≤ pathLimit

/-- Whether everything that can be a secret is readable. -/
structure IsReadable : Prop where
  /-- An entry that can be a secret leads somewhere, or is a link to nothing. -/
  error_eq : ∀ name error, isSecretName name → ofText name ∈ root.entries.map Prod.fst →
    root.world.walk root.spot [ofText name] = .error error → error = .notFound
  /-- What is shown in a folder can be asked for, is there, and is not too large. -/
  exists_tree : ∀ name inner entries key, isSecretName name →
    ofText name ∈ root.entries.map Prod.fst →
    root.world.walk root.spot [ofText name] = .ok inner →
    root.world.below? inner.place = some (.directory entries) →
    ofText key ∈ entries.map Prod.fst → key.toList.head? ≠ some '.' →
    (Path.join (Path.join root.path name) key).utf8ByteSize ≤ pathLimit
      ∧ ∃ tree, root.world.walk inner [ofText key] >>= root.world.there = .ok tree
        ∧ tree.metadata.size ≤ sizeLimit

variable {root} {name : String}

theorem isEntryName {spot : Spot} {entries : List (FileName × FileTree)}
    (h : root.world.below? spot.place = some (.directory entries)) {key : FileName}
    (hmem : key ∈ entries.map Prod.fst) : key.IsEntryName := by
  obtain ⟨entry, hentry, rfl⟩ := List.mem_map.1 hmem
  exact (root.wellFormed.of_below? h).isEntryName hentry

/-- The table of a directory has the folder of a name, where it can be that of a secret. -/
theorem table_get? (name : String) : root.table.get? name =
    if isSecretName name then (root.volume.lookup (ofText name)).map (Secret.ofFolder name)
    else none := by
  have hnodup : (root.volume.map Prod.fst).Nodup :=
    nodup_namesWith (root.wellFormed.of_below? root.below?_eq).nodup
  rw [table, SecretTable.get?_ofVolume hnodup]
  by_cases hsecret : isSecretName name
  · rw [if_pos hsecret, if_pos]
    exact ⟨(isSecretName_iff.1 hsecret).2.1, (isSecretName_iff.1 hsecret).2.2.2⟩
  · rw [if_neg hsecret, ite_eq_right_iff]
    -- What is left of the names that no secret can have is no name of an entry either.
    rintro ⟨hhidden, hbackslash⟩
    rw [volume, lookup_namesWith, if_neg, Option.map_none]
    intro hmem
    obtain ⟨hempty, -, -, hslash, -⟩ :=
      FileName.isEntryName_ofText_iff.1 (isEntryName root.below?_eq hmem)
    exact hsecret (isSecretName_iff.2 ⟨hempty, hhidden, hslash, hbackslash⟩)

/-! ### Looking a name up -/

/-- What the system has under the path of a name that it takes. -/
theorem find_of_admits (hsecret : isSecretName name) (h : root.Admits name) :
    root.world.find root.working (Path.join root.path name) =
      root.world.walk root.spot [ofText name] >>= root.world.there :=
  find_join root.lead_eq (mt FileName.zero_mem_ofText_iff.1 root.zero_notMem)
    (mt FileName.zero_mem_ofText_iff.1 h.zero_notMem) (isSecretName_iff.1 hsecret).1
    (mt FileName.slash_mem_ofText_iff.1 (isSecretName_iff.1 hsecret).2.2.1) h.fits

/-- What the system says of a name that it does not take. -/
def refusal (name : String) : FileError :=
  if '\x00' ∈ name.toList then .zeroInPath else .nameTooLong

/-- What the system says of the path of a name that it does not take. -/
theorem find_of_not_admits (hsecret : isSecretName name) (h : ¬root.Admits name) :
    root.world.find root.working (Path.join root.path name) = .error (refusal name) := by
  obtain ⟨hname, -, hslash, -⟩ := isSecretName_iff.1 hsecret
  rw [← FileName.slash_mem_ofText_iff] at hslash
  have hroot : 0 ∉ ofText root.path := mt FileName.zero_mem_ofText_iff.1 root.zero_notMem
  unfold refusal
  split_ifs with hzero
  · exact find_of_zero (zero_mem_join_iff.2 (Or.inr (FileName.zero_mem_ofText_iff.2 hzero)))
  · have hbyte : 0 ∉ ofText name := mt FileName.zero_mem_ofText_iff.1 hzero
    by_cases hfits : (Path.join root.path name).utf8ByteSize ≤ pathLimit
    · have hlong : nameLimit < (ofText name).length := by
        rw [FileName.length_ofText, ← Nat.not_le]
        exact fun hshort => h ⟨hzero, hshort, hfits⟩
      rw [find_join root.lead_eq hroot hbyte hname hslash hfits,
        walk_entry_of_long root.below?_eq (ofText_ne_of_isSecretName hsecret) hlong]
      rfl
    · exact find_of_long (fun h => (zero_mem_join_iff.1 h).elim hroot hbyte) (Nat.not_le.1 hfits)

variable {files : Files}

/-- **A name that the system does not take** fails, with what the system says of it. -/
theorem lookup_of_not_admits (hshows : files.Shows root.world root.working)
    (hsecret : isSecretName name) (h : ¬root.Admits name) :
    SecretDirectory.lookup files root.path name =
      .error (.unavailable name (refusal name).message) := by
  have hmetadata : files.metadata (Path.join root.path name) = .error (refusal name) := by
    rw [hshows.metadata]
    exact congrArg (FileTree.metadata <$> ·) (find_of_not_admits hsecret h)
  refine lookup_of_error hsecret hmetadata ?_
  unfold refusal
  split_ifs <;> exact FileError.noConfusion

theorem walk_of_notMem (hsecret : isSecretName name) (h : root.Admits name)
    (hmem : ofText name ∉ root.entries.map Prod.fst) :
    root.world.walk root.spot [ofText name] = .error .notFound :=
  walk_entry_of_notMem root.below?_eq (ofText_ne_of_isSecretName hsecret)
    (FileName.length_ofText name ▸ h.length_le) hmem

/-- A walk to a name that the system takes fails only if nothing is there. -/
theorem IsReadable.eq_notFound (hreadable : root.IsReadable) (hsecret : isSecretName name)
    (h : root.Admits name) {error : FileError}
    (hwalk : root.world.walk root.spot [ofText name] = .error error) : error = .notFound := by
  by_cases hmem : ofText name ∈ root.entries.map Prod.fst
  · exact hreadable.error_eq name error hsecret hmem hwalk
  · exact Except.error.inj (hwalk.symm.trans (walk_of_notMem hsecret h hmem))

/-- The volume has under a name that the system takes what is there. -/
theorem lookup_volume (hsecret : isSecretName name) (h : root.Admits name) :
    root.volume.lookup (ofText name) = root.world.folderAt? root.spot (ofText name) := by
  rw [volume, lookup_namesWith, ite_eq_left_iff]
  intro hmem
  rw [folderAt?, walk_of_notMem hsecret h hmem]
  rfl

/-- The files of a folder as a listing shows them are those of the folder that are shown. -/
theorem filterMap_shownKey? (found : FileName → Option ByteArray)
    (entries : List (FileName × FileTree)) :
    (entries.map fun entry => entry.1.text?).filterMap (shownKey? fun key => found (ofText key)) =
      (namesWith found entries).filterMap fun file => file.1.shown?.map (·, file.2) := by
  unfold namesWith
  rw [List.filterMap_map, List.filterMap_filterMap]
  refine List.filterMap_congr fun entry _ => ?_
  unfold FileName.shown?
  cases htext : entry.1.text? with
  | none => cases found entry.1 <;> simp [shownKey?, htext]
  | some key =>
    have hname : found (ofText key) = found entry.1 :=
      congrArg found (FileName.text?_eq_some_iff.1 htext).symm
    by_cases hhidden : key.toList.head? = some '.' <;> cases hfound : found entry.1 <;>
      simp [shownKey?, htext, hname, hfound, hhidden, Option.filter_some]

section Folder

variable {inner : FileTree.Spot} {entries : List (FileName × FileTree)}
  (hreadable : root.IsReadable) (hshows : files.Shows root.world root.working)
  (hsecret : isSecretName name) (h : root.Admits name)
  (hwalk : root.world.walk root.spot [ofText name] = .ok inner)
  (hinner : root.world.below? inner.place = some (.directory entries))

include hreadable hshows hsecret h hwalk hinner

/-- What is shown in the folder that a name leads to is read as what it is. -/
theorem entry_of_mem {key : String} (hkey : ofText key ∈ entries.map Prod.fst)
    (hhidden : key.toList.head? ≠ some '.') :
    entry files name (Path.join (Path.join root.path name) key) key =
      .ok (root.world.contentAt? inner (ofText key)) := by
  have hmem : ofText name ∈ root.entries.map Prod.fst := by
    by_contra hnot
    cases hwalk.symm.trans (walk_of_notMem hsecret h hnot)
  obtain ⟨hfits, tree, htree, hsize⟩ :=
    hreadable.exists_tree name inner entries key hsecret hmem hwalk hinner hkey hhidden
  have hname := isEntryName hinner hkey
  obtain ⟨-, -, hslash, -⟩ := isSecretName_iff.1 hsecret
  have hlead : root.world.lead root.working (Path.join root.path name) = .ok inner := by
    rw [lead_join root.path (mt FileName.slash_mem_ofText_iff.1 hslash), root.lead_eq, ok_bind,
      hwalk]
  have hzero : 0 ∉ ofText (Path.join root.path name) := by
    rw [zero_mem_join_iff, not_or, FileName.zero_mem_ofText_iff, FileName.zero_mem_ofText_iff]
    exact ⟨root.zero_notMem, h.zero_notMem⟩
  have hfind : root.world.find root.working (Path.join (Path.join root.path name) key) =
      .ok tree := by
    rw [find_join hlead hzero hname.zero_notMem (mt FileName.ofText_eq_nil_iff.2 hname.ne_nil)
      hname.slash_notMem hfits, htree]
  rw [entry_of_find hshows hfind hsize, contentAt?, htree]
  rfl

/-- **The folder that a name leads to** is read as the secret that it is. -/
theorem value_readSecret : (readSecret files (Path.join root.path name) name).value =
    .ok (Secret.ofFolder name (namesWith (root.world.contentAt? inner) entries)) := by
  have hlisted : (root.world.files root.working).names (Path.join root.path name) =
      .ok (entries.map fun entry => entry.1.text?) := by
    change root.world.find root.working (Path.join root.path name) >>= FileTree.names = _
    rw [find_of_admits hsecret h, hwalk, ok_bind, there_eq_ok_iff.2 hinner]
    rfl
  obtain ⟨seen, hseen, hperm⟩ := hshows.names _ _ hlisted
  -- The keys are distinct, so that the order in which the files are seen does not matter.
  have hkeys : (((namesWith (root.world.contentAt? inner) entries).filterMap fun file =>
      file.1.shown?.map (·, file.2)).map (·.1)).Nodup := by
    refine nodup_keys_of_text
      (nodup_namesWith (root.wellFormed.of_below? hinner).nodup) fun file pair hpair => ?_
    obtain ⟨key, hkey, rfl⟩ := Option.map_eq_some_iff.1 hpair
    exact (FileName.shown?_eq_some_iff.1 hkey).1
  have hdata : Dictionary.ofList (seen.filterMap
      (shownKey? fun key => root.world.contentAt? inner (ofText key))) =
      (Secret.ofFolder name (namesWith (root.world.contentAt? inner) entries)).data := by
    refine (Dictionary.ofList_eq_of_perm ?_ hkeys).symm
    rw [← filterMap_shownKey?]
    exact (hperm.filterMap _).symm
  have hshown : ∀ key, some key ∈ seen → key.toList.head? ≠ some '.' →
      entry files name (Path.join (Path.join root.path name) key) key =
        .ok (root.world.contentAt? inner (ofText key)) := by
    intro key hmem hhidden
    obtain ⟨entry, hentry, htext⟩ := List.mem_map.1 (hperm.mem_iff.1 hmem)
    refine entry_of_mem hreadable hshows hsecret h hwalk hinner ?_ hhidden
    rw [← FileName.text?_eq_some_iff.1 htext]
    exact List.mem_map_of_mem hentry
  unfold readSecret
  rw [hseen]
  exact (value_entries_of_ok hshown).trans
    (congrArg (fun data => Except.ok (Secret.mk name data)) hdata)

end Folder

/-- **A name that the system takes** is answered with what the table has under it. -/
theorem lookup_of_admits (hreadable : root.IsReadable)
    (hshows : files.Shows root.world root.working) (h : root.Admits name) :
    SecretDirectory.lookup files root.path name = root.table.lookup name := by
  rw [SecretTable.lookup, table_get?]
  split_ifs with hsecret
  · have hmetadata : files.metadata (Path.join root.path name) =
        FileTree.metadata <$> (root.world.walk root.spot [ofText name] >>= root.world.there) := by
      rw [hshows.metadata, ← find_of_admits hsecret h]
      rfl
    rw [lookup_volume hsecret h, folderAt?]
    cases hwalk : root.world.walk root.spot [ofText name] with
    | error error =>
      obtain rfl := hreadable.eq_notFound hsecret h hwalk
      rw [hwalk] at hmetadata
      exact lookup_of_notFound hsecret hmetadata
    | ok inner =>
      obtain ⟨tree, htree⟩ := exists_below?_of_walk ⟨_, root.below?_eq⟩ hwalk
      rw [hwalk, ok_bind, there_eq_ok_iff.2 htree] at hmetadata
      cases tree with
      | directory entries =>
        rw [lookup_of_directory hsecret hmetadata rfl,
          value_readSecret hreadable hshows hsecret h hwalk htree]
        simp only [Except.toOption, Option.bind_some, folder?, htree]
        rfl
      | file _ | link _ | special _ =>
        rw [lookup_of_not_directory hsecret hmetadata FileKind.noConfusion]
        simp only [Except.toOption, Option.bind_some, folder?, htree, Option.map_none]
  · exact lookup_of_not_isSecretName hsecret

theorem table_lookup_of_not_isSecretName (hsecret : ¬isSecretName name) :
    root.table.lookup name = .ok none := by
  rw [SecretTable.lookup, table_get?, if_neg hsecret]

section Answers

variable (hreadable : root.IsReadable) (hshows : files.Shows root.world root.working)

include hreadable hshows

/-- A name is answered from the table, unless a secret can have it and the system does not take
it. -/
theorem lookup_eq_table (h : isSecretName name → root.Admits name) :
    SecretDirectory.lookup files root.path name = root.table.lookup name := by
  by_cases hsecret : isSecretName name
  · exact lookup_of_admits hreadable hshows (h hsecret)
  · rw [lookup_of_not_isSecretName hsecret, table_lookup_of_not_isSecretName hsecret]

/-- **Which names fail**, and with which error. -/
theorem lookup_eq_error_iff {error : SecretError} :
    SecretDirectory.lookup files root.path name = .error error ↔
      isSecretName name ∧ ¬root.Admits name
        ∧ error = .unavailable name (refusal name).message := by
  by_cases h : isSecretName name → root.Admits name
  · rw [lookup_eq_table hreadable hshows h, SecretTable.lookup]
    simp only [reduceCtorEq, false_iff]
    exact fun herror => herror.2.1 (h herror.1)
  · obtain ⟨hsecret, hnot⟩ := Classical.not_imp.1 h
    rw [lookup_of_not_admits hshows hsecret hnot]
    simp only [hsecret, hnot, true_and, not_false_eq_true, Except.error.injEq, eq_comm]

/-- **Which names are answered.** -/
theorem exists_lookup_eq_ok_iff :
    (∃ found, SecretDirectory.lookup files root.path name = .ok found) ↔
      (isSecretName name → root.Admits name) := by
  constructor
  · rintro ⟨found, hfound⟩ hsecret
    by_contra h
    cases hfound.symm.trans (lookup_of_not_admits hshows hsecret h)
  · exact fun h => ⟨_, lookup_eq_table hreadable hshows h⟩

end Answers

end SecretRoot

end LogForwarding

import LogForwarding.Proofs.Confidentiality
import LogForwarding.Proofs.Outcome
import LogForwarding.Proofs.Secret.Directory

/-!
# Runs with a directory of secrets

A run learns of secrets from look-ups only, and it looks up the secrets that its migrated outputs
name (`Spec.Needs`). So a run with a directory of secrets is the run with the table of what the
directory holds, as long as the system takes the names. It does not take a name that has a zero
character in it or is too long, though such a name can be written in a specification: looking it
up fails, and that ends the run.

## What is proved

* `Spec.normalize_congr`: runs whose look-ups agree on the secrets they need are the same.
* `Spec.exists_secretLookup_iff`: which runs are given up for a look-up.
* `Output.secretDoesNotExist_mem_reasons_iff`: which outputs are said to lack their secret.
* `lookup_directory_eq_table`: a directory of secrets is the table of what it holds.
* `lookup_directory_answers_iff`: which names are answered, and what the others do to a run.
-/

namespace LogForwarding

open FileName (ofText)

/-- Whether an output of the migrated specification names a secret. -/
def Spec.Needs (spec : Spec) (store : Option Store) (operator : Operator) (secret : String) :
    Prop :=
  ∃ migrated, (spec.migrate store operator).value = .ok migrated
    ∧ ∃ output ∈ migrated.spec.outputs, output.secretName? = some secret

/-! ### Look-ups that agree -/

/-- **Runs whose look-ups agree** on the secrets that they need are the same, journals
included. -/
theorem Spec.normalize_congr {spec : Spec} {store : Option Store} {operator : Operator}
    {first second : SecretLookup}
    (h : ∀ secret, spec.Needs store operator secret → first secret = second secret) :
    spec.normalize store first operator = spec.normalize store second operator := by
  have hreview : ∀ migrated, (spec.migrate store operator).value = .ok migrated →
      migrated.review store first = migrated.review store second := by
    intro migrated hmigrate
    have hreviews : migrated.outputReviews first = migrated.outputReviews second := by
      refine reviewOutputs_of_alike (fun output hmem secret hsecret => ?_) migrated.owned
      rw [h secret ⟨migrated, hmigrate, output, hmem, hsecret⟩]
      exact .refl _
    simp only [Migrated.review, hreviews]
  unfold normalize
  cases hmigrate : spec.migrate store operator with
  | mk journal result =>
    cases result with
    | error error => simp only [bind, Traced.bind]
    | ok migrated =>
      have hsame := hreview migrated (congrArg Traced.value hmigrate)
      simp only [bind, Traced.bind, hsame]

/-! ### Runs that are given up for a look-up -/

/-- **A run is given up for a look-up** iff some look-up that it needs fails. -/
theorem Spec.exists_secretLookup_iff {spec : Spec} {store : Option Store} {lookup : SecretLookup}
    {operator : Operator} :
    (∃ output secret source, (spec.normalize store lookup operator).value =
        .error (.secretLookup output secret source)) ↔
      ∃ secret, spec.Needs store operator secret ∧ ∀ found, lookup secret ≠ .ok found := by
  constructor
  · rintro ⟨name, secret, source, h⟩
    obtain hmigrate | ⟨migrated, hmigrate, hfailure⟩ := normalize_eq_error_iff.1 h
    · exact ForwardingError.noConfusion (migrate_eq_error_iff.1 hmigrate).2
    · obtain ⟨output, needed, cause, ⟨before, after, hsplit, hneeded, hlookup, -⟩, -⟩ :=
        Migrated.failure?_outputReviews_eq_some_iff.1 hfailure
      refine ⟨needed, ⟨migrated, hmigrate, output, ?_, hneeded⟩, fun found hfound => ?_⟩
      · rw [hsplit]
        exact List.mem_append_right _ List.mem_cons_self
      · cases hlookup.symm.trans hfound
  · rintro ⟨secret, ⟨migrated, hmigrate, output, hmem, hsecret⟩, hfails⟩
    cases hfailure : (migrated.outputReviews lookup).failure? with
    | none =>
      have hanswered := Output.lookupFailure?_eq_none_iff.1
        (Migrated.failure?_outputReviews_eq_none_iff.1 hfailure output hmem)
      obtain ⟨found, hfound⟩ := hanswered secret hsecret
      exact absurd hfound (hfails found)
    | some failure =>
      obtain ⟨failing, needed, source, -, rfl⟩ :=
        Migrated.failure?_outputReviews_eq_some_iff.1 hfailure
      exact ⟨failing.name, needed, source,
        normalize_eq_error_iff.2 (Or.inr ⟨migrated, hmigrate, hfailure⟩)⟩

namespace Output

variable {output : Output} {owned : Ownership} {lookup : SecretLookup} {accepted : List String}
  {position : Nat}

theorem reason_of_mem_nameCondition? : ∀ condition ∈ output.nameCondition? owned accepted,
    condition.reason ≠ .secretDoesNotExist := by
  intro condition hmem
  obtain ⟨reason, hreason, rfl⟩ := Option.map_eq_some_iff.1 hmem
  unfold nameFault? at hreason
  split_ifs at hreason <;> (cases hreason; exact Reason.noConfusion)

theorem reason_of_mem_kindCondition? : ∀ condition ∈ output.kindCondition?,
    condition.reason ≠ .secretDoesNotExist := by
  intro condition hmem
  unfold kindCondition? at hmem
  split_ifs at hmem <;> cases hmem <;> exact Reason.noConfusion

theorem reason_of_mem_endpointCondition? : ∀ condition ∈ output.endpointCondition?,
    condition.reason ≠ .secretDoesNotExist := by
  intro condition hmem
  unfold endpointCondition? at hmem
  split_ifs at hmem
  · cases hmem
    exact Reason.noConfusion
  · cases hmem

theorem exists_reason_secretCondition?_iff :
    (∃ condition ∈ output.secretCondition? lookup, condition.reason = .secretDoesNotExist) ↔
      ∃ secret ∈ output.secretName?, lookup secret = .ok none := by
  unfold secretCondition? secretName?
  cases output.secret with
  | none => simp
  | some ref =>
    by_cases hempty : ref.name.isEmpty
    · simp [hempty]
    · rcases hlookup : lookup ref.name with error | _ | secret
      · simp [hempty, hlookup]
      · simp [hempty, hlookup, secretFault?]
      · simp only [hempty, hlookup, secretFault?]
        split_ifs <;> simp [hlookup]

/-- **An output is said to lack its secret** iff its own secret is not found. -/
theorem secretDoesNotExist_mem_reasons_iff :
    .secretDoesNotExist ∈ (output.status owned lookup accepted position).reasons ↔
      ∃ secret ∈ output.secretName?, lookup secret = .ok none := by
  rw [← exists_reason_secretCondition?_iff, EntityStatus.reasons, List.mem_map]
  simp only [status, statusWith, conditionsWith, List.mem_append, Option.mem_toList]
  constructor
  · rintro ⟨condition, ((hmem | hmem) | hmem) | hmem, hreason⟩
    · exact absurd hreason (reason_of_mem_nameCondition? condition hmem)
    · exact absurd hreason (reason_of_mem_kindCondition? condition hmem)
    · exact absurd hreason (reason_of_mem_endpointCondition? condition hmem)
    · exact ⟨condition, hmem, hreason⟩
  · rintro ⟨condition, hmem, hreason⟩
    exact ⟨condition, Or.inr hmem, hreason⟩

end Output

/-! ### Directories and tables -/

open SecretDirectory (isSecretName)
open FileTree (named)

/-- **A directory of secrets is the table of what it holds**, for every name that the system
takes and every order in which it lists entries. Names that no secret can have are absent from
both, what else there is makes no difference, and runs whose secrets have such names are the
same. -/
theorem lookup_directory_eq_table (root : SecretRoot) (hreadable : root.IsReadable) {files : Files}
    (hshows : files.Shows root.world root.working) :
    let lookup := SecretDirectory.lookup files root.path
    (∀ name, root.Admits name → lookup name = root.table.lookup name)
      ∧ (∀ name, name = "" ∨ name.toList.head? = some '.' ∨ '/' ∈ name.toList
            ∨ '\\' ∈ name.toList →
          lookup name = .ok none ∧ root.table.lookup name = .ok none)
      ∧ (∀ (other : SecretRoot) (others : Files) (name : String), other.IsReadable →
          others.Shows other.world other.working → root.Admits name → other.Admits name →
          other.volume.lookup (ofText name) = root.volume.lookup (ofText name) →
          SecretDirectory.lookup others other.path name = lookup name)
      ∧ ∀ (spec : Spec) (store : Option Store) (operator : Operator),
          (∀ secret, spec.Needs store operator secret → isSecretName secret →
            root.Admits secret) →
          spec.normalize store lookup operator =
            spec.normalize store root.table.lookup operator := by
  intro lookup
  have htable : ∀ name, (isSecretName name → root.Admits name) →
      lookup name = root.table.lookup name :=
    fun name h => SecretRoot.lookup_eq_table hreadable hshows h
  refine ⟨fun name h => htable name fun _ => h, fun name hname => ?_, ?_,
    fun spec store operator hneeds => Spec.normalize_congr fun secret hsecret =>
      htable secret (hneeds secret hsecret)⟩
  · have hnot : ¬isSecretName name := by
      rw [SecretDirectory.isSecretName_iff]
      tauto
    exact ⟨SecretDirectory.lookup_of_not_isSecretName hnot,
      SecretRoot.table_lookup_of_not_isSecretName hnot⟩
  · intro other others name hother hothers h hadmits hvolume
    rw [htable name fun _ => h, SecretRoot.lookup_of_admits hother hothers hadmits,
      SecretTable.lookup, SecretTable.lookup, SecretRoot.table_get?, SecretRoot.table_get?, hvolume]

/-- The bytes of a key. -/
def sharedBytes : ByteArray := ⟨#[0x73, 0x33]⟩

/-- A pipe with something in it. -/
def mountedPipe : FileTree := .special (.ok sharedBytes)

/-- A directory with one key. -/
def datedKeys : FileTree := .directory (named [("shared_key", .file sharedBytes)])

/-- A secret as a cluster mounts it: its entry is a link through a hidden link into a hidden
directory. A pipe is beside it. -/
def mountedKeys : List (String × FileTree) :=
  [("..data", .link (ofText "..1")), ("..1", datedKeys), ("ca-bundle.crt", mountedPipe),
    ("shared_key", .link (ofText "..data/shared_key"))]

/-- A secret, a link to it, a link to nothing, a file, and a pipe. -/
def mountedSecrets : List (String × FileTree) :=
  [("fluent", .directory (named mountedKeys)), ("gone", .link (ofText "nowhere")),
    ("note", .file sharedBytes), ("pipe", mountedPipe), ("token", .link (ofText "fluent"))]

/-- A file system with secrets in one directory. -/
def mountedWorld : FileTree := .directory (named [("s", .directory (named mountedSecrets))])

theorem wellFormed_mountedWorld : mountedWorld.WellFormed := by
  refine FileTree.wellFormed_named (by decide) (by decide) (List.forall_mem_singleton.2 ?_)
  refine FileTree.wellFormed_named (by decide) (by decide) ?_
  simp only [mountedSecrets, List.forall_mem_cons]
  refine ⟨FileTree.wellFormed_named (by decide) (by decide) ?_, .link _, .file _, .special _,
    .link _, nofun⟩
  simp only [mountedKeys, List.forall_mem_cons]
  refine ⟨.link _, FileTree.wellFormed_named (by decide) (by decide) ?_, .special _, .link _,
    nofun⟩
  exact List.forall_mem_singleton.2 (.file _)

section Mounted

open FileTree (walk_named walk_link walk_link_beside walk_nil below?_named there_named segments)

theorem below?_secrets :
    mountedWorld.below? [ofText "s"] = some (.directory (named mountedSecrets)) := by
  have hroot : mountedWorld.below? [] =
    some (.directory (named [("s", .directory (named mountedSecrets))])) := rfl
  exact below?_named hroot "s"

theorem below?_keys :
    mountedWorld.below? [ofText "s", ofText "fluent"] = some (.directory (named mountedKeys)) :=
  below?_named below?_secrets "fluent"

theorem below?_dated : mountedWorld.below? [ofText "s", ofText "fluent", ofText "..1"] =
    some (.directory (named [("shared_key", .file sharedBytes)])) :=
  below?_named below?_keys "..1"

/-- The directory of secrets there. -/
def mountedRoot : SecretRoot where
  world := mountedWorld
  working := []
  path := "s"
  spot := ⟨FileTree.linkLimit, [ofText "s"]⟩
  entries := named mountedSecrets
  wellFormed := wellFormed_mountedWorld
  zero_notMem := by decide
  lead_eq := FileTree.lead_named (by decide) rfl
  below?_eq := below?_secrets

/-- Where the entries there lead. -/
theorem walk_mountedRoot (links : Nat) :
    mountedWorld.walk ⟨links + 1, [ofText "s"]⟩ [ofText "fluent"] =
        .ok ⟨links + 1, [ofText "s", ofText "fluent"]⟩
      ∧ mountedWorld.walk ⟨links + 1, [ofText "s"]⟩ [ofText "gone"] = .error .notFound
      ∧ mountedWorld.walk ⟨links + 1, [ofText "s"]⟩ [ofText "note"] =
        .ok ⟨links + 1, [ofText "s", ofText "note"]⟩
      ∧ mountedWorld.walk ⟨links + 1, [ofText "s"]⟩ [ofText "pipe"] =
        .ok ⟨links + 1, [ofText "s", ofText "pipe"]⟩
      ∧ mountedWorld.walk ⟨links + 1, [ofText "s"]⟩ [ofText "token"] =
        .ok ⟨links, [ofText "s", ofText "fluent"]⟩ := by
  refine ⟨?_, ?_, ?_, ?_, ?_⟩
  · rw [walk_named below?_secrets (by decide) rfl rfl]
    exact walk_nil
  · rw [walk_link_beside below?_secrets (by decide) rfl (by decide)]
    have hname : (ofText "nowhere").IsEntryName := by decide
    refine FileTree.walk_entry_of_notMem below?_secrets
      ⟨hname.ne_nil, hname.ne_dot, hname.ne_dots⟩ hname.length_le ?_
    rw [FileTree.mem_names_named]
    decide
  · rw [walk_named below?_secrets (by decide) rfl rfl]
    exact walk_nil
  · rw [walk_named below?_secrets (by decide) rfl rfl]
    exact walk_nil
  · rw [walk_link_beside below?_secrets (by decide) rfl (by decide),
      walk_named below?_secrets (by decide) rfl rfl]
    exact walk_nil

/-- What the entries of the folder there lead to. -/
theorem there_mountedKeys (links : Nat) :
    (mountedWorld.walk ⟨links + 2, [ofText "s", ofText "fluent"]⟩ [ofText "..data"]
        >>= mountedWorld.there) = .ok datedKeys
      ∧ (mountedWorld.walk ⟨links + 2, [ofText "s", ofText "fluent"]⟩ [ofText "..1"]
        >>= mountedWorld.there) = .ok datedKeys
      ∧ (mountedWorld.walk ⟨links + 2, [ofText "s", ofText "fluent"]⟩ [ofText "ca-bundle.crt"]
        >>= mountedWorld.there) = .ok mountedPipe
      ∧ (mountedWorld.walk ⟨links + 2, [ofText "s", ofText "fluent"]⟩ [ofText "shared_key"]
        >>= mountedWorld.there) = .ok (.file sharedBytes) := by
  refine ⟨?_, there_named below?_keys (by decide) rfl rfl,
    there_named below?_keys (by decide) rfl rfl, ?_⟩
  · rw [walk_link_beside below?_keys (by decide) rfl (by decide)]
    exact there_named below?_keys (by decide) rfl rfl
  · have hhead : (ofText "..data/shared_key").head? ≠ some FileTree.slash := by
      rw [FileName.ofText_eq_flatMap]
      decide
    have hsegments :
        segments (ofText "..data/shared_key") = [ofText "..data", ofText "shared_key"] := by
      simp only [FileName.ofText_eq_flatMap]
      decide
    rw [walk_link below?_keys (by decide) rfl hhead, hsegments, List.append_nil,
      walk_link_beside below?_keys (by decide) rfl (by decide),
      walk_named below?_keys (by decide) rfl rfl]
    exact there_named below?_dated (by decide) rfl rfl

/-- What is shown in the folder there can be asked for under both of its names, and is not too
large. -/
theorem exists_there_mountedKeys (links : Nat) {name key : String}
    (hname : name = "fluent" ∨ name = "token")
    (hmem : ofText key ∈ (named mountedKeys).map Prod.fst) (hhidden : key.toList.head? ≠ some '.') :
    (Path.join (Path.join "s" name) key).utf8ByteSize ≤ FileTree.pathLimit
      ∧ ∃ tree, mountedWorld.walk ⟨links + 2, [ofText "s", ofText "fluent"]⟩ [ofText key]
          >>= mountedWorld.there = .ok tree ∧ tree.metadata.size ≤ SecretDirectory.sizeLimit := by
  obtain ⟨-, -, hpipe, hfile⟩ := there_mountedKeys links
  have hkey : key = "..data" ∨ key = "..1" ∨ key = "ca-bundle.crt" ∨ key = "shared_key" := by
    simpa [mountedKeys] using FileTree.mem_names_named.1 hmem
  rcases hkey with rfl | rfl | rfl | rfl
  · exact absurd rfl hhidden
  · exact absurd rfl hhidden
  · refine ⟨?_, mountedPipe, hpipe, by decide⟩
    rcases hname with rfl | rfl <;> decide
  · refine ⟨?_, .file sharedBytes, hfile, by decide⟩
    rcases hname with rfl | rfl <;> decide

theorem isReadable_mountedRoot : mountedRoot.IsReadable := by
  obtain ⟨hfluent, hgone, hnote, hpipe, htoken⟩ := walk_mountedRoot 39
  have hnames : ∀ name, ofText name ∈ mountedRoot.entries.map Prod.fst →
      name = "fluent" ∨ name = "gone" ∨ name = "note" ∨ name = "pipe" ∨ name = "token" := by
    intro name hmem
    simpa [mountedSecrets] using FileTree.mem_names_named.1 hmem
  constructor
  · intro name error _ hmem hwalk
    rcases hnames name hmem with rfl | rfl | rfl | rfl | rfl
    · cases hfluent.symm.trans hwalk
    · exact (Except.error.inj (hgone.symm.trans hwalk)).symm
    · cases hnote.symm.trans hwalk
    · cases hpipe.symm.trans hwalk
    · cases htoken.symm.trans hwalk
  · intro name inner entries key _ hmem hwalk hinner hkey hhidden
    rcases hnames name hmem with rfl | rfl | rfl | rfl | rfl
    · obtain rfl := Except.ok.inj (hfluent.symm.trans hwalk)
      obtain rfl := FileTree.directory.inj (Option.some.inj (below?_keys.symm.trans hinner))
      exact exists_there_mountedKeys 38 (Or.inl rfl) hkey hhidden
    · cases hgone.symm.trans hwalk
    · obtain rfl := Except.ok.inj (hnote.symm.trans hwalk)
      cases (below?_named below?_secrets "note").symm.trans hinner
    · obtain rfl := Except.ok.inj (hpipe.symm.trans hwalk)
      cases (below?_named below?_secrets "pipe").symm.trans hinner
    · obtain rfl := Except.ok.inj (htoken.symm.trans hwalk)
      obtain rfl := FileTree.directory.inj (Option.some.inj (below?_keys.symm.trans hinner))
      exact exists_there_mountedKeys 37 (Or.inr rfl) hkey hhidden

/-- The files of the folder there. -/
theorem namesWith_mountedKeys (links : Nat) :
    namesWith (mountedWorld.contentAt? ⟨links + 2, [ofText "s", ofText "fluent"]⟩)
      (named mountedKeys) = [(ofText "shared_key", sharedBytes)] := by
  obtain ⟨hdata, hdated, hpipe, hfile⟩ := there_mountedKeys links
  simp only [namesWith, named, mountedKeys, List.map_cons, List.map_nil, FileTree.contentAt?,
    List.filterMap_cons, List.filterMap_nil, hdata, hdated, hpipe, hfile]
  rfl

/-- The folder that the link to it leads to. -/
theorem lookup_volume_mountedRoot :
    mountedRoot.volume.lookup (ofText "token") = some [(ofText "shared_key", sharedBytes)] := by
  have hwalk : mountedRoot.world.walk mountedRoot.spot [ofText "token"] =
      .ok ⟨39, [ofText "s", ofText "fluent"]⟩ := (walk_mountedRoot 39).2.2.2.2
  rw [SecretRoot.lookup_volume (by decide) ⟨by decide, by decide, by decide⟩,
    FileTree.folderAt?, hwalk, ← namesWith_mountedKeys 37]
  change mountedWorld.folder? ⟨39, [ofText "s", ofText "fluent"]⟩ = _
  rw [FileTree.folder?, below?_keys]

end Mounted

/-- An output with a mounted secret, and one whose secret would be elsewhere. -/
def mountedSpec : Spec where
  outputs :=
    [{ name := "sink", kind := .fluentdForward, url := "tls://sink.example"
       secret := some ⟨"token"⟩ },
      { name := "late", kind := .http, url := "https://late.example"
        secret := some ⟨"../s/token"⟩ }]
  pipelines := [{ name := "logs", inputRefs := ["audit"], outputRefs := ["sink", "late"] }]

theorem lookup_directory_eq_table_mountedRoot :
    let files := (mountedWorld.files []).backwards
    let lookup := SecretDirectory.lookup files "s"
    mountedRoot.IsReadable ∧ files.Shows mountedWorld []
      ∧ lookup "token" = mountedRoot.table.lookup "token"
      ∧ mountedRoot.volume.lookup (ofText "token") = some [(ofText "shared_key", sharedBytes)]
      ∧ mountedSpec.normalize none lookup {} =
          mountedSpec.normalize none mountedRoot.table.lookup {} := by
  intro files lookup
  have hshows : files.Shows mountedWorld [] := (mountedWorld.shows_files []).backwards
  have hadmits : mountedRoot.Admits "token" := ⟨by decide, by decide, by decide⟩
  obtain ⟨htable, -, -, hrun⟩ :=
    lookup_directory_eq_table mountedRoot isReadable_mountedRoot hshows
  refine ⟨isReadable_mountedRoot, hshows, htable "token" hadmits, lookup_volume_mountedRoot,
    hrun mountedSpec none {} ?_⟩
  rintro secret ⟨migrated, hmigrate, output, hmem, hsecret⟩ hname
  rw [Spec.value_migrate_of_unconfigured rfl, if_neg (by decide)] at hmigrate
  obtain rfl := Except.ok.inj hmigrate
  simp only [mountedSpec, List.mem_cons, List.not_mem_nil, or_false] at hmem
  rcases hmem with rfl | rfl
  · obtain rfl : "token" = secret := Option.some.inj hsecret
    exact hadmits
  · obtain rfl : "../s/token" = secret := Option.some.inj hsecret
    exact absurd hname (by decide)

/-! ### Paths that are too long -/

/-- A path with slashes behind it. -/
def slashed (path : String) : Nat → String
  | 0 => path
  | count + 1 => slashed path count ++ "/"

section Slashed

variable {path : String} (count : Nat)

theorem utf8ByteSize_slashed : (slashed path count).utf8ByteSize = path.utf8ByteSize + count := by
  induction count with
  | zero => rfl
  | succ count ih =>
    rw [slashed, String.utf8ByteSize_append, ih]
    rfl

theorem zero_notMem_slashed (h : '\x00' ∉ path.toList) : '\x00' ∉ (slashed path count).toList := by
  induction count with
  | zero => exact h
  | succ count ih =>
    rw [slashed, String.toList_append, List.mem_append, not_or]
    exact ⟨ih, by decide⟩

theorem slashed_ne_empty (h : path ≠ "") : slashed path count ≠ "" := by
  induction count with
  | zero => exact h
  | succ count ih =>
    rw [slashed, ne_eq, String.append_eq_empty_iff, not_and]
    exact fun hempty => absurd hempty ih

/-- Slashes behind the path of a directory make no difference. -/
theorem lead_slashed {world : FileTree} {working : List FileName} {spot : FileTree.Spot}
    {entries : List (FileName × FileTree)} (h : path ≠ "")
    (hspot : world.below? spot.place = some (.directory entries))
    (hlead : world.lead working path = .ok spot) :
    world.lead working (slashed path count) = .ok spot := by
  induction count with
  | zero => exact hlead
  | succ count ih => exact FileTree.lead_append_slash (slashed_ne_empty count h) hspot ih

end Slashed

/-- A file system with an empty directory of secrets. -/
def bareWorld : FileTree := .directory (named [("s", .directory (named []))])

theorem wellFormed_bareWorld : bareWorld.WellFormed := by
  refine FileTree.wellFormed_named (by decide) (by decide) (List.forall_mem_singleton.2 ?_)
  exact FileTree.wellFormed_named nofun List.nodup_nil nofun

theorem below?_bareWorld : bareWorld.below? [ofText "s"] = some (.directory (named [])) := by
  have hroot : bareWorld.below? [] = some (.directory (named [("s", .directory (named []))])) := rfl
  exact FileTree.below?_named hroot "s"

/-- The directory there, under a path that leaves no room for names. -/
def slashedRoot : SecretRoot where
  world := bareWorld
  working := []
  path := slashed "s" 4094
  spot := ⟨FileTree.linkLimit, [ofText "s"]⟩
  entries := named []
  wellFormed := wellFormed_bareWorld
  zero_notMem := zero_notMem_slashed 4094 (by decide)
  lead_eq := lead_slashed 4094 (by decide) below?_bareWorld (FileTree.lead_named (by decide) rfl)
  below?_eq := below?_bareWorld

/-- A short name that no secret has fails, where the table answers that there is none: the
path is too long for the system. -/
theorem exists_lookup_directory_ne_table :
    let files := bareWorld.files []
    slashedRoot.IsReadable ∧ files.Shows bareWorld []
      ∧ '\x00' ∉ "absent".toList ∧ "absent".utf8ByteSize ≤ 255
      ∧ slashedRoot.table.lookup "absent" = .ok none
      ∧ SecretDirectory.lookup files (slashed "s" 4094) "absent" =
          .error (.unavailable "absent" "File name too long (os error 36)") := by
  intro files
  have hshows : files.Shows bareWorld [] := bareWorld.shows_files []
  have hlong : ¬slashedRoot.Admits "absent" := by
    intro h
    have hsize : (slashed "s" 4094).utf8ByteSize = 1 + 4094 := utf8ByteSize_slashed 4094
    have hjoin := Nat.le_trans (FileTree.le_utf8ByteSize_join (slashed "s" 4094) "absent") h.fits
    rw [hsize] at hjoin
    exact absurd hjoin (by decide)
  have herror : SecretDirectory.lookup files slashedRoot.path "absent" =
      .error (.unavailable "absent" "File name too long (os error 36)") :=
    SecretRoot.lookup_of_not_admits hshows (by decide) hlong
  refine ⟨⟨?_, ?_⟩, hshows, by decide, by decide, ?_, herror⟩
  · exact fun _ _ _ hmem => absurd hmem List.not_mem_nil
  · exact fun _ _ _ _ _ hmem => absurd hmem List.not_mem_nil
  · have hvolume : slashedRoot.volume = [] := rfl
    rw [SecretTable.lookup, SecretRoot.table_get?, hvolume, if_pos (by decide)]
    rfl

/-! ### Names that are answered -/

/-- **Which names are answered**: those that no secret can have, and those that the system
takes. A run is given up for a look-up iff it needs any other name; and where it is not, an output
is said to lack its secret iff its own is not in the table. -/
theorem lookup_directory_answers_iff (root : SecretRoot) (hreadable : root.IsReadable)
    {files : Files} (hshows : files.Shows root.world root.working) :
    let lookup := SecretDirectory.lookup files root.path
    (∀ name, (∃ found, lookup name = .ok found) ↔ (isSecretName name → root.Admits name))
      ∧ (∀ name error, lookup name = .error error ↔ isSecretName name ∧ ¬root.Admits name
          ∧ error = .unavailable name (SecretRoot.refusal name).message)
      ∧ ∀ (spec : Spec) (store : Option Store) (operator : Operator),
        ((∃ output secret source, (spec.normalize store lookup operator).value =
            .error (.secretLookup output secret source)) ↔
          ∃ secret, spec.Needs store operator secret ∧ isSecretName secret ∧ ¬root.Admits secret)
        ∧ ∀ normalized migrated, (spec.normalize store lookup operator).value = .ok normalized →
          (spec.migrate store operator).value = .ok migrated →
          ∀ (position : Nat) (output : Output), migrated.spec.outputs[position]? = some output →
            ∃ status, normalized.status.outputs[position]? = some status
              ∧ (.secretDoesNotExist ∈ status.reasons ↔
                ∃ secret ∈ output.secretName?, root.table.get? secret = none) := by
  intro lookup
  refine ⟨fun _ => SecretRoot.exists_lookup_eq_ok_iff hreadable hshows,
    fun _ _ => SecretRoot.lookup_eq_error_iff hreadable hshows,
    fun spec store operator => ⟨?_, ?_⟩⟩
  · rw [Spec.exists_secretLookup_iff]
    refine exists_congr fun secret => and_congr_right fun _ => ?_
    rw [← not_exists, SecretRoot.exists_lookup_eq_ok_iff hreadable hshows, Classical.not_imp]
  · intro normalized migrated hrun hmigrate position output houtput
    obtain ⟨hfailure, rfl⟩ := (Spec.normalize_eq_ok_iff_of_migrate hmigrate).1 hrun
    obtain ⟨before, hstatus, -⟩ := Migrated.exists_status_outputs_reviewed hfailure houtput
    refine ⟨_, hstatus, ?_⟩
    rw [Output.secretDoesNotExist_mem_reasons_iff]
    refine exists_congr fun secret => and_congr_right fun hsecret => ?_
    -- The run has got through, so the secret has been answered for.
    have hanswered := Output.lookupFailure?_eq_none_iff.1
      (Migrated.failure?_outputReviews_eq_none_iff.1 hfailure output
        (List.mem_of_getElem? houtput)) secret hsecret
    have hadmits := (SecretRoot.exists_lookup_eq_ok_iff hreadable hshows).1 hanswered
    have hlookup : lookup secret = root.table.lookup secret :=
      SecretRoot.lookup_eq_table hreadable hshows hadmits
    rw [hlookup, SecretTable.lookup, Except.ok.injEq]

theorem lookup_directory_answers_iff_mountedRoot :
    let files := (mountedWorld.files []).backwards
    let lookup := SecretDirectory.lookup files "s"
    mountedRoot.IsReadable ∧ files.Shows mountedWorld []
      ∧ (∃ found, lookup "gone" = .ok found) ∧ ¬∃ found, lookup "a\x00b" = .ok found := by
  intro files lookup
  have hshows : files.Shows mountedWorld [] := (mountedWorld.shows_files []).backwards
  have hiff := (lookup_directory_answers_iff mountedRoot isReadable_mountedRoot hshows).1
  refine ⟨isReadable_mountedRoot, hshows,
    (hiff "gone").2 fun _ => ⟨by decide, by decide, by decide⟩, fun h => ?_⟩
  exact ((hiff "a\x00b").1 h (by decide)).zero_notMem (by decide)

/-- A sound output, and one that names a secret with a zero character. -/
def zeroSpec : Spec where
  outputs :=
    [{ name := "sink", kind := .http, url := "https://sink.example", secret := some ⟨"fluent"⟩ },
      { name := "late", kind := .http, url := "https://late.example", secret := some ⟨"a\x00b"⟩ }]
  pipelines := [{ name := "logs", inputRefs := ["application"], outputRefs := ["sink"] }]

/-- A name that no file can have is not said to be absent, though there is no such secret: it ends
the run for the sound output as well. -/
theorem exists_lookup_directory_error :
    let lookup := SecretDirectory.lookup (mountedWorld.files []) "s"
    mountedRoot.IsReadable ∧ (mountedWorld.files []).Shows mountedWorld []
      ∧ lookup "a\x00b" =
          .error (.unavailable "a\x00b" "file name contained an unexpected NUL byte")
      ∧ ∃ output secret source, (zeroSpec.normalize none lookup {}).value =
          .error (.secretLookup output secret source) := by
  intro lookup
  have hshows : (mountedWorld.files []).Shows mountedWorld [] := mountedWorld.shows_files []
  have hnot : ¬mountedRoot.Admits "a\x00b" := fun h => h.zero_notMem (by decide)
  have hlookup : lookup "a\x00b" =
      .error (.unavailable "a\x00b" "file name contained an unexpected NUL byte") :=
    SecretRoot.lookup_of_not_admits hshows (by decide) hnot
  have hmigrate : (zeroSpec.migrate none {}).value = .ok { spec := zeroSpec } := by
    rw [Spec.value_migrate_of_unconfigured rfl, if_neg (by decide)]
  refine ⟨isReadable_mountedRoot, hshows, hlookup, Spec.exists_secretLookup_iff.2
    ⟨"a\x00b", ⟨_, hmigrate, _, List.mem_cons_of_mem _ List.mem_cons_self, rfl⟩, ?_⟩⟩
  rw [hlookup]
  exact nofun

end LogForwarding

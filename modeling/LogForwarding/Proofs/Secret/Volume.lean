import LogForwarding.Secret
import LogForwarding.Proofs.Dictionary
import LogForwarding.Proofs.File.Name

/-!
# Volumes of secrets

A volume is a directory written down as far as it can hold secrets: its folders, and the files in
each of them. `SecretTable.ofVolume` is the table of the secrets it holds, without a word on how
a file system would be asked for them.

## What is proved

* `nodup_keys_of_text`: files with distinct names have distinct texts for names.
* `SecretTable.get?_ofVolume`: what the table has under a name is the folder of that name.
-/

namespace LogForwarding

open FileName (ofText)

/-- The files of a folder, each with its bytes. -/
abbrev Folder : Type := List (FileName × ByteArray)

/-- The folders of a volume. -/
abbrev Volume : Type := List (FileName × Folder)

/-- The text that a name is, unless it is hidden. -/
def FileName.shown? (name : FileName) : Option String :=
  name.text?.filter fun text => text.toList.head? ≠ some '.'

theorem FileName.shown?_eq_some_iff {name : FileName} {text : String} :
    name.shown? = some text ↔ name = ofText text ∧ text.toList.head? ≠ some '.' := by
  rw [shown?, Option.filter_eq_some_iff, text?_eq_some_iff, decide_eq_true_iff]

/-- The secret that a folder is: those of its files that are shown, as they are. -/
def Secret.ofFolder (name : String) (folder : Folder) : Secret where
  name
  data := .ofList (folder.filterMap fun file => file.1.shown?.map (·, file.2))

namespace SecretTable

/-- The secrets of a volume: the folders that are shown and have no backslash in their names. -/
def secretsOf (volume : Volume) : List Secret :=
  volume.filterMap fun folder =>
    (folder.1.shown?.filter fun name => '\\' ∉ name.toList).map (Secret.ofFolder · folder.2)

/-- **The table of the secrets** of a volume. -/
def ofVolume (volume : Volume) : SecretTable := (secretsOf volume).foldl put .empty

end SecretTable

/-- Where names are read as texts, distinct names are so as distinct texts. -/
theorem nodup_keys_of_text {α β : Type} {entries : List (FileName × α)}
    (h : (entries.map Prod.fst).Nodup) {f : FileName × α → Option β} {key : β → String}
    (hf : ∀ entry value, f entry = some value → entry.1 = ofText (key value)) :
    ((entries.filterMap f).map key).Nodup := by
  rw [List.Nodup, List.pairwise_map, List.pairwise_filterMap]
  refine (List.pairwise_map.1 h).imp fun hne value hvalue other hother heq => hne ?_
  rw [hf _ _ hvalue, hf _ _ hother, heq]

namespace SecretTable

theorem mem_secretsOf_iff {volume : Volume} {secret : Secret} :
    secret ∈ secretsOf volume ↔ ∃ name folder, (ofText name, folder) ∈ volume
      ∧ (name.toList.head? ≠ some '.' ∧ '\\' ∉ name.toList)
      ∧ Secret.ofFolder name folder = secret := by
  unfold secretsOf
  simp only [List.mem_filterMap, Option.map_eq_some_iff, Option.filter_eq_some_iff,
    FileName.shown?_eq_some_iff, decide_eq_true_iff]
  constructor
  · rintro ⟨⟨_, folder⟩, hmem, name, ⟨⟨rfl, hhidden⟩, hslash⟩, rfl⟩
    exact ⟨name, folder, hmem, ⟨hhidden, hslash⟩, rfl⟩
  · rintro ⟨name, folder, hmem, ⟨hhidden, hslash⟩, rfl⟩
    exact ⟨_, hmem, name, ⟨⟨rfl, hhidden⟩, hslash⟩, rfl⟩

/-- **What the table of a volume has under a name** is the folder of that name, where it is shown
and has no backslash in its name. -/
theorem get?_ofVolume {volume : Volume} (h : (volume.map Prod.fst).Nodup) (name : String) :
    (ofVolume volume).get? name =
      if name.toList.head? ≠ some '.' ∧ '\\' ∉ name.toList then
        (volume.lookup (ofText name)).map (Secret.ofFolder name)
      else none := by
  have hkeys : ((secretsOf volume).map (·.name)).Nodup := by
    refine nodup_keys_of_text h fun folder secret hsecret => ?_
    obtain ⟨name, hname, rfl⟩ := Option.map_eq_some_iff.1 hsecret
    exact (FileName.shown?_eq_some_iff.1 (Option.filter_eq_some_iff.1 hname).1).1
  have hlist : ofVolume volume =
      Dictionary.ofList ((secretsOf volume).map fun secret => (secret.name, secret)) := by
    rw [Dictionary.ofList, List.foldl_map]
    rfl
  refine Option.ext fun secret => ?_
  rw [hlist, Dictionary.get?_ofList_eq_some_iff (by rwa [List.map_map]), List.mem_map]
  split_ifs with hname
  · simp only [mem_secretsOf_iff, Option.map_eq_some_iff, FileTree.lookup_eq_some_iff_mem h]
    constructor
    · rintro ⟨_, ⟨other, folder, hmem, -, rfl⟩, hpair⟩
      obtain ⟨rfl, rfl⟩ := Prod.mk.inj hpair
      exact ⟨folder, hmem, rfl⟩
    · rintro ⟨folder, hmem, rfl⟩
      exact ⟨_, ⟨name, folder, hmem, hname, rfl⟩, rfl⟩
  · simp only [mem_secretsOf_iff, iff_false]
    rintro ⟨_, ⟨other, folder, -, hother, rfl⟩, hpair⟩
    obtain ⟨rfl, rfl⟩ := Prod.mk.inj hpair
    exact hname hother

end SecretTable

end LogForwarding

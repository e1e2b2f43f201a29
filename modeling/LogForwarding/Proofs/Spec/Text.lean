import LogForwarding.Json.Writer
import LogForwarding.Proofs.Document.Spec
import LogForwarding.Spec.Text
import LogForwarding.Yaml.Writer

/-!
# Specifications and their texts

A specification may be written out, by itself or as a part of a manifest, and read again. That
the writer and the reader of a format agree on the document is left to them, and it is all that
is asked of them: the entries of a map may come back in another order, as those of a JSON
object do. What remains is what is made of a document. The loader takes a specification from
under its key if there is one, and it treats a blank text and an absent value in their own way;
nothing that is written of a specification is either.

## What is proved

* `SpecFormat.not_blank_of_mem_texts`: what is written of a map is not blank.
* `Spec.stable_ofDocument`: the order of entries does not matter, in a manifest either.
* `Spec.isCanonical_of_ofText`: what is read of a text is canonical.
* `ofText_eq_ok_iff_isCanonical`: what is written of a specification is read back iff it is
  canonical.
-/

namespace LogForwarding

/-! ### Texts of a document -/

namespace Text

theorem not_all_isBlank_of_mem {text : String} {c : Char} (hmem : c ∈ text.toList)
    (hc : isBlank c = false) : text.all isBlank = false := by
  rw [String.all_bool_eq, List.all_eq_false]
  exact ⟨c, hmem, by simp [hc]⟩

end Text

theorem Json.mem_compact {entries : List (Document × Document)} :
    '\x7b' ∈ (compact (.map entries)).toList := by
  simp [compact]

theorem Json.mem_pretty {indent : String} {entries : List (Document × Document)} :
    '\x7b' ∈ (pretty indent (.map entries)).toList := by
  unfold pretty block
  split_ifs <;> simp

/-- What is written of an entry has its colon. -/
theorem Yaml.mem_write {key value : Document} {rest : List (Document × Document)} :
    ':' ∈ (write (.map ((key, value) :: rest))).toList := by
  have hwrite : write (.map ((key, value) :: rest)) =
      joined 0 (entryLines 0 ((key, value) :: rest)) := rfl
  rw [hwrite, entryLines, joined]
  split <;> rw [String.intercalate_cons_append] <;> simp

namespace SpecFormat

/-- The texts that may be written of a document: JSON on one line or on several, YAML in one
way. -/
def texts : SpecFormat → Document → List String
  | json, document => [Json.compact document, Json.pretty "" document]
  | yaml, document => [Yaml.write document]

/-- Whether a text stands for a document, but for the order of entries. -/
def Restores (format : SpecFormat) (text : String) (document : Document) : Prop :=
  ∃ read, format.read? text = some read ∧ document.Rearranged read

/-- **What is written of a map** is not blank. -/
theorem not_blank_of_mem_texts {format : SpecFormat} {text : String}
    {entries : List (Document × Document)} (h : text ∈ format.texts (.map entries)) :
    text.all Text.isBlank = false := by
  cases format with
  | json =>
    simp only [texts, List.mem_cons, List.not_mem_nil, or_false] at h
    rcases h with rfl | rfl
    · exact Text.not_all_isBlank_of_mem Json.mem_compact (by decide)
    · exact Text.not_all_isBlank_of_mem Json.mem_pretty (by decide)
  | yaml =>
    obtain rfl := List.mem_singleton.1 h
    cases entries with
    | nil =>
      have hmem : '\x7b' ∈ (Yaml.write (.map [])).toList := by simp [Yaml.write, Document.untag]
      exact Text.not_all_isBlank_of_mem hmem (by decide)
    | cons entry rest => exact Text.not_all_isBlank_of_mem Yaml.mem_write (by decide)

end SpecFormat

/-! ### Documents that hold a specification -/

namespace Document

/-- What a map holds under a text that is not the key of an earlier entry. -/
theorem get?_map_append {key : String} {value : Document}
    {before after : List (Document × Document)} (h : ∀ entry ∈ before, ¬ entry.1.isText key) :
    (map (before ++ (text key, value) :: after)).get? key = some value := by
  have hbefore : before.find? (fun entry => entry.1.isText key) = none :=
    List.find?_eq_none.2 h
  have hkey : (text key).isText key = true := beq_self_eq_true key
  simp [get?, untag, List.find?_append, hbefore, hkey]

end Document

namespace Spec

variable {spec : Spec} {dialect : Dialect} {document : Document}

/-- Whether a document is that of a specification, or a manifest that has it under its key,
whatever else there is. -/
inductive IsHeldBy (spec : Spec) : Document → Prop where
  /-- The document is that of the specification. -/
  | whole : spec.IsHeldBy spec.toDocument
  /-- The document has it under the key of manifests. -/
  | wrapped {entries : List (Document × Document)}
      (h : (Document.map entries).get? wrapperKey = some spec.toDocument) :
      spec.IsHeldBy (.map entries)

theorem IsHeldBy.exists_map (h : spec.IsHeldBy document) : ∃ entries, document = .map entries := by
  cases h with
  | whole => exact ⟨_, rfl⟩
  | wrapped => exact ⟨_, rfl⟩

/-- The document of a specification is no manifest. -/
theorem get?_toDocument : spec.toDocument.get? wrapperKey = none := by
  obtain ⟨outputs, pipelines, inputs, disableDefaultForwarding, outputDefaults⟩ := spec
  cases outputDefaults <;> rfl

/-- **The order of entries** does not matter, in a manifest either. -/
theorem stable_ofDocument : Reader.Stable (ofDocument dialect) := by
  intro document other hrearranged spec hread
  have hinner : ((document.get? wrapperKey).getD document).Rearranged
      ((other.get? wrapperKey).getD other) := by
    have hget := hrearranged.get? wrapperKey
    cases hdocument : document.get? wrapperKey <;> cases hother : other.get? wrapperKey <;>
      rw [hdocument, hother] at hget
    · exact hrearranged
    · exact absurd hget nofun
    · exact absurd hget nofun
    · cases hget with
      | some hvalue => exact hvalue
  simp only [ofDocument, hinner.isNull] at hread ⊢
  split_ifs at hread ⊢
  · exact hread
  · exact stable_reader hinner hread

/-- A canonical specification is read from every document that holds it. -/
theorem ofDocument_of_isHeldBy (h : spec.IsCanonical) (hheld : spec.IsHeldBy document) :
    ofDocument dialect document = .ok spec := by
  have hinner : (document.get? wrapperKey).getD document = spec.toDocument := by
    cases hheld with
    | whole => rw [get?_toDocument, Option.getD_none]
    | wrapped hget => rw [hget, Option.getD_some]
  have hnull : spec.toDocument.isNull = false := rfl
  simp only [ofDocument, hinner, hnull]
  exact reader_toDocument h

/-! ### Reading texts -/

variable {format : SpecFormat} {source text : String}

theorem isCanonical_of_ofDocument (h : ofDocument dialect document = .ok spec) :
    spec.IsCanonical := by
  unfold ofDocument at h
  dsimp only at h
  split_ifs at h
  · obtain rfl := Except.ok.inj h
    exact List.forall_mem_nil _
  · exact isCanonical_of_reader h

/-- **What is read of a text is canonical.** -/
theorem isCanonical_of_ofText (h : ofText format source text = .ok spec) : spec.IsCanonical := by
  unfold ofText at h
  split_ifs at h
  · obtain rfl := Except.ok.inj h
    exact List.forall_mem_nil _
  · split at h
    · exact absurd h nofun
    · split at h
      · rename_i hdocument
        obtain rfl := Except.ok.inj h
        exact isCanonical_of_ofDocument hdocument
      · exact absurd h nofun

/-- A canonical specification is read from every text that is not blank and stands for a
document that holds it. -/
theorem ofText_of_restores (h : spec.IsCanonical) (hheld : spec.IsHeldBy document)
    (hrestores : format.Restores text document) (hblank : text.all Text.isBlank = false) :
    ofText format source text = .ok spec := by
  obtain ⟨read, hread, hrearranged⟩ := hrestores
  have hdocument : ofDocument format.dialect read = .ok spec :=
    stable_ofDocument hrearranged (ofDocument_of_isHeldBy h hheld)
  simp [ofText, hblank, hread, hdocument]

end Spec

/-- **A specification survives** being written and read. If a document is that of a
specification, or a manifest that holds it, and the text that is written of it stands for it,
then the specification is read from the text iff it is canonical. Nothing else is ever read: of
whatever text or document, what is read is canonical. -/
theorem ofText_eq_ok_iff_isCanonical {spec : Spec} {document : Document} {format : SpecFormat}
    {text : String} (hheld : spec.IsHeldBy document) (htext : text ∈ format.texts document)
    (hrestores : format.Restores text document) :
    (∀ source, Spec.ofText format source text = .ok spec ↔ spec.IsCanonical)
      ∧ (∀ (dialect : Dialect) (other : Document) (read : Spec),
          Spec.reader dialect other = .ok read → read.IsCanonical)
      ∧ ∀ (format : SpecFormat) (source other : String) (read : Spec),
          Spec.ofText format source other = .ok read → read.IsCanonical := by
  refine ⟨fun source => ⟨Spec.isCanonical_of_ofText, fun h => ?_⟩,
    fun _ _ _ => Spec.isCanonical_of_reader, fun _ _ _ _ => Spec.isCanonical_of_ofText⟩
  obtain ⟨entries, rfl⟩ := hheld.exists_map
  exact Spec.ofText_of_restores h hheld hrestores (SpecFormat.not_blank_of_mem_texts htext)

/-- A specification with one output. -/
def sinkSpec : Spec := { outputs := [{ name := "sink", kind := .http, url := "https://sink" }] }

/-- A manifest that holds it next to another key. -/
def sinkManifest : Document :=
  .map ([(.text "kind", .text "Forwarder")] ++ (.text "spec", sinkSpec.toDocument) :: [])

/-- The document of the specification as it comes back from JSON, in the order of the keys. -/
def sinkRead : Document :=
  .record [("disableDefaultForwarding", .bool false), ("inputs", .list []),
    ("outputs", .list [.record [("name", .text "sink"), ("type", .text "http"),
      ("url", .text "https://sink")]]), ("pipelines", .list [])]

theorem restores_sinkManifest :
    SpecFormat.Restores .json (Json.compact sinkManifest) sinkManifest := by
  have hread : Json.read (Json.compact sinkManifest) =
      some (.record [("kind", .text "Forwarder"), ("spec", sinkRead)]) := by decide +kernel
  have hspec : sinkSpec.toDocument.Rearranged sinkRead :=
    .record rfl (by decide) (List.forall₂_same.2 fun _ _ => .refl _)
      ((@List.perm_append_comm _ [_, _] [_, _]).trans (.swap _ _ _))
  exact ⟨_, hread, @Document.Rearranged.record
    [("kind", .text "Forwarder"), ("spec", sinkSpec.toDocument)]
    [("kind", .text "Forwarder"), ("spec", sinkRead)] _ rfl (by decide)
    (.cons (.refl _) (.cons hspec .nil)) (.refl _)⟩

/-- The specification is read from the manifest, whose keys JSON gives in another order. -/
theorem ofText_sinkManifest :
    sinkSpec.IsHeldBy sinkManifest
      ∧ Spec.ofText .json "forwarder.json" (Json.compact sinkManifest) = .ok sinkSpec := by
  have hheld : sinkSpec.IsHeldBy sinkManifest := .wrapped (Document.get?_map_append (by decide))
  have hiff := ofText_eq_ok_iff_isCanonical hheld List.mem_cons_self restores_sinkManifest
  exact ⟨hheld, (hiff.1 "forwarder.json").2 (by decide)⟩

end LogForwarding

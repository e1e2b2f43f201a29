import LogForwarding.Proofs.Document.Dialects
import LogForwarding.Proofs.Spec.Text

/-!
# Specifications in JSON and in YAML

A JSON text and a YAML text that stand for the same document are read as the same
specification, or both are refused, unless the document has one of two things in it. An absent
value where a list, a map or a record is asked for is refused in JSON, while YAML takes it for
an empty one; and a list where a record is asked for is refused in YAML, while JSON takes it for
the list of the record's fields. Where an absent value may stand is a matter of the shape of
specifications: `secret: null` is fine in both formats, `outputs: null` is not.

The loader takes a text of white space for the empty specification before it is read. No JSON
text is one. Some YAML texts are, and they stand for the absent value, which is the empty
specification too; but there are white space characters that YAML does not pass over, and a text
of these stands for itself. This case is left out.

## What is proved

* `Spec.agrees_reader`: the readers of specifications agree, as do those of all their parts.
* `Json.read_eq_none_of_blank`: a text of white space is not JSON.
* `Spec.ofText_eq_ok_iff`: what is read of a text is what the document holds that it stands for.
* `ofText_json_eq_ok_iff_yaml`: the two formats agree, and where they do not.
-/

namespace LogForwarding

open Reader (Agrees agrees_scalar agrees_textEntries agrees_record)
open LogForwarding.Field (agrees_of)

/-! ### What is asked of a specification -/

/-- The shape of a secret reference. -/
def SecretRef.shape : Shape := .record [(["name"], .scalar)]

theorem SecretRef.agrees_reader :
    Agrees (SecretRef.reader .json) (SecretRef.reader .yaml) shape :=
  agrees_record (.cons (agrees_of rfl rfl rfl rfl rfl rfl (agrees_scalar _)) .nil)

/-- The shape of Elasticsearch settings. -/
def Tuning.shape : Shape :=
  .record [(["structuredTypeKey"], .scalar), (["structuredTypeName"], .scalar),
    (["enableStructuredContainerLogs"], .scalar)]

theorem Tuning.agrees_reader : Agrees (Tuning.reader .json) (Tuning.reader .yaml) shape :=
  agrees_record <|
    .cons (agrees_of rfl rfl rfl rfl rfl rfl (agrees_scalar _)) <|
    .cons (agrees_of rfl rfl rfl rfl rfl rfl (agrees_scalar _)) <|
    .cons (agrees_of rfl rfl rfl rfl rfl rfl (agrees_scalar _)) .nil

/-- The shape of an output. -/
def Output.shape : Shape :=
  .record [(["name"], .scalar), (["type"], .scalar), (["url", "endpoint"], .scalar),
    (["secret"], .option SecretRef.shape), (["elasticsearch"], .option Tuning.shape)]

theorem Output.agrees_reader : Agrees (Output.reader .json) (Output.reader .yaml) shape :=
  agrees_record <|
    .cons (agrees_of rfl rfl rfl rfl rfl rfl (agrees_scalar _)) <|
    .cons (agrees_of rfl rfl rfl rfl rfl rfl (agrees_scalar _)) <|
    .cons (agrees_of rfl rfl rfl rfl rfl rfl (agrees_scalar _)) <|
    .cons (agrees_of rfl rfl rfl rfl rfl rfl SecretRef.agrees_reader.option) <|
    .cons (agrees_of rfl rfl rfl rfl rfl rfl Tuning.agrees_reader.option) .nil

/-- The shape of a pipeline. -/
def Pipeline.shape : Shape :=
  .record [(["name"], .scalar), (["inputRefs"], .list .scalar), (["outputRefs"], .list .scalar),
    (["labels"], .entries), (["parse"], .option .scalar)]

theorem Pipeline.agrees_reader : Agrees (Pipeline.reader .json) (Pipeline.reader .yaml) shape :=
  agrees_record <|
    .cons (agrees_of rfl rfl rfl rfl rfl rfl (agrees_scalar _)) <|
    .cons (agrees_of rfl rfl rfl rfl rfl rfl (agrees_scalar _).list) <|
    .cons (agrees_of rfl rfl rfl rfl rfl rfl (agrees_scalar _).list) <|
    .cons (agrees_of rfl rfl rfl rfl rfl rfl agrees_textEntries) <|
    .cons (agrees_of rfl rfl rfl rfl rfl rfl (agrees_scalar _).option) .nil

/-- The shape of a source of application logs. -/
def ApplicationSource.shape : Shape := .record [(["namespaces"], .list .scalar)]

theorem ApplicationSource.agrees_reader :
    Agrees (ApplicationSource.reader .json) (ApplicationSource.reader .yaml) shape :=
  agrees_record (.cons (agrees_of rfl rfl rfl rfl rfl rfl (agrees_scalar _).list) .nil)

theorem Input.agrees_markReader {name : String} :
    Agrees (Input.markReader .json name) (Input.markReader .yaml name) (.option (.record [])) :=
  (agrees_record .nil).option.map Option.isSome

/-- The shape of an input. -/
def Input.shape : Shape :=
  .record [(["name"], .scalar), (["application"], .option ApplicationSource.shape),
    (["infrastructure"], .option (.record [])), (["audit"], .option (.record []))]

theorem Input.agrees_reader : Agrees (Input.reader .json) (Input.reader .yaml) shape :=
  agrees_record <|
    .cons (agrees_of rfl rfl rfl rfl rfl rfl (agrees_scalar _)) <|
    .cons (agrees_of rfl rfl rfl rfl rfl rfl ApplicationSource.agrees_reader.option) <|
    .cons (agrees_of rfl rfl rfl rfl rfl rfl Input.agrees_markReader) <|
    .cons (agrees_of rfl rfl rfl rfl rfl rfl Input.agrees_markReader) .nil

/-- The shape of output defaults. -/
def OutputDefaults.shape : Shape := .record [(["elasticsearch"], .option Tuning.shape)]

theorem OutputDefaults.agrees_reader :
    Agrees (OutputDefaults.reader .json) (OutputDefaults.reader .yaml) shape :=
  agrees_record (.cons (agrees_of rfl rfl rfl rfl rfl rfl Tuning.agrees_reader.option) .nil)

/-- The shape of a specification. -/
def Spec.shape : Shape :=
  .record [(["outputs"], .list Output.shape), (["pipelines"], .list Pipeline.shape),
    (["inputs"], .list Input.shape), (["disableDefaultForwarding"], .scalar),
    (["outputDefaults"], .option OutputDefaults.shape)]

/-- **The readers of specifications** agree. -/
theorem Spec.agrees_reader : Agrees (Spec.reader .json) (Spec.reader .yaml) shape :=
  agrees_record <|
    .cons (agrees_of rfl rfl rfl rfl rfl rfl Output.agrees_reader.list) <|
    .cons (agrees_of rfl rfl rfl rfl rfl rfl Pipeline.agrees_reader.list) <|
    .cons (agrees_of rfl rfl rfl rfl rfl rfl Input.agrees_reader.list) <|
    .cons (agrees_of rfl rfl rfl rfl rfl rfl (agrees_scalar _)) <|
    .cons (agrees_of rfl rfl rfl rfl rfl rfl OutputDefaults.agrees_reader.option) .nil

/-! ### Documents -/

namespace Document

/-- Where a document has its specification: under the key of manifests, else everywhere. -/
def inner (document : Document) : Document := (document.get? Spec.wrapperKey).getD document

/-- Whether the absent value stands in a specification where a list, a map or a record is asked
for. -/
def HasNullForParts (document : Document) : Prop :=
  (Shape.option Spec.shape).Has Shape.NullFault document.inner

/-- Whether a list stands in a specification where a record is asked for. -/
def HasListForRecord (document : Document) : Prop :=
  (Shape.option Spec.shape).Has Shape.ListFault document.inner

end Document

namespace Spec

/-- An absent value is the empty specification. -/
theorem ofDocument_eq_option {dialect : Dialect} {document : Document} :
    ofDocument dialect document =
      (·.getD {}) <$> Reader.option (reader dialect) document.inner := by
  unfold ofDocument Document.inner
  cases (document.get? wrapperKey).getD document <;>
    simp [Document.isNull, Reader.option]

/-- What holds of the readers at the place of the specification. -/
theorem agrees_option : Agrees
    (fun document => (·.getD {}) <$> Reader.option (reader .json) document)
    (fun document => (·.getD {}) <$> Reader.option (reader .yaml) document) (.option shape) :=
  agrees_reader.option.map (·.getD {})

end Spec

/-! ### Texts of white space -/

namespace Json

variable {text : List Char}

theorem isDigit_eq_false_of_blank {c : Char} (h : Text.isBlank c) : Number.isDigit c = false := by
  rw [Bool.eq_false_iff]
  intro hdigit
  simp only [Number.isDigit, Bool.and_eq_true, decide_eq_true_eq] at hdigit
  obtain ⟨hzero, hnine⟩ := hdigit
  simp only [Text.isBlank, Bool.or_eq_true, Bool.and_eq_true, decide_eq_true_eq, or_assoc] at h
  rcases h with rfl | ⟨-, hle⟩ | rfl | rfl | rfl | ⟨hle, -⟩ | rfl | rfl | rfl | rfl | rfl
  case inr.inl => exact absurd (Char.le_trans hzero hle) (by decide)
  case inr.inr.inr.inr.inr.inl => exact absurd (Char.le_trans hle hnine) (by decide)
  all_goals revert hzero hnine; decide

theorem isBlank_head {c : Char} {rest : List Char} (h : text.all Text.isBlank)
    (htext : text = c :: rest) : Text.isBlank c :=
  List.all_eq_true.1 h c (htext ▸ List.mem_cons_self)

theorem readNumber?_eq_none_of_blank (h : text.all Text.isBlank) : readNumber? text = none := by
  cases text with
  | nil => rfl
  | cons c rest =>
    have hc := isBlank_head h rfl
    have hminus : c ≠ '-' := by
      rintro rfl
      exact absurd hc (by decide)
    simp [readNumber?, hminus, digits, isDigit_eq_false_of_blank hc]

/-- White space has no value in it. -/
theorem readValue?_eq_none_of_blank {fuel depth : Nat} (h : text.all Text.isBlank) :
    readValue? fuel depth text = none := by
  have hskip : (skipBlank text).all Text.isBlank :=
    List.all_eq_true.2 fun c hc => List.all_eq_true.1 h c (List.dropWhile_subset _ hc)
  unfold readValue?
  split
  case h_1 => rfl
  case h_2 => rfl
  case h_9 => exact readNumber?_eq_none_of_blank hskip
  all_goals
    rename_i htext
    exact absurd (isBlank_head hskip htext) (by decide)

/-- **A text of white space** is not JSON. -/
theorem read_eq_none_of_blank {text : String} (h : text.all Text.isBlank) : read text = none := by
  rw [String.all_bool_eq] at h
  simp only [read, readValue?_eq_none_of_blank h]

end Json

namespace Spec

variable {format : SpecFormat} {source text : String} {document : Document} {spec : Spec}

/-- **What is read of a text** is what the document holds that it stands for, if it is not of white
space or stands for the absent value. -/
theorem ofText_eq_ok_iff (hrestores : format.Restores text document)
    (hblank : text.all Text.isBlank → document = .null) :
    ofText format source text = .ok spec ↔ ofDocument format.dialect document = .ok spec := by
  obtain ⟨read, hread, hrearranged⟩ := hrestores
  by_cases hall : text.all Text.isBlank
  · obtain rfl := hblank hall
    have hnull : ofDocument format.dialect .null = .ok {} := rfl
    simp only [ofText, hall, if_true, hnull, Except.ok.injEq]
  · have hiff : ofDocument format.dialect document = .ok spec ↔
        ofDocument format.dialect read = .ok spec :=
      ⟨fun h => stable_ofDocument hrearranged h, fun h => stable_ofDocument hrearranged.symm h⟩
    rw [hiff]
    simp only [ofText, hall, hread]
    cases ofDocument format.dialect read <;> simp

/-- It is enough that one character is no white space. -/
theorem ofText_eq_ok_iff_of_mem {c : Char} (hrestores : format.Restores text document)
    (hmem : c ∈ text.toList) (hc : Text.isBlank c = false) :
    ofText format source text = .ok spec ↔ ofDocument format.dialect document = .ok spec := by
  refine ofText_eq_ok_iff hrestores fun hall => ?_
  rw [Text.not_all_isBlank_of_mem hmem hc] at hall
  exact absurd hall Bool.false_ne_true

/-- In JSON there is no text of white space. -/
theorem ofText_json_eq_ok_iff (hrestores : SpecFormat.json.Restores text document) :
    ofText .json source text = .ok spec ↔ ofDocument .json document = .ok spec := by
  refine ofText_eq_ok_iff hrestores fun hall => ?_
  obtain ⟨read, hread, -⟩ := hrestores
  exact absurd (hread.symm.trans (Json.read_eq_none_of_blank hall)) nofun

end Spec

/-- **JSON and YAML mean the same.** If a JSON text and a YAML text stand for one document, they are
read as the same specification or are both refused, unless an absent value or a list stands where
one format takes it for something else; that format then is the only one that may read it. -/
theorem ofText_json_eq_ok_iff_yaml {document : Document} {json yaml : String}
    (hjson : SpecFormat.json.Restores json document)
    (hyaml : SpecFormat.yaml.Restores yaml document)
    (hblank : yaml.all Text.isBlank → document = .null) :
    (¬ document.HasNullForParts → ¬ document.HasListForRecord → ∀ source other spec,
        Spec.ofText .json source json = .ok spec ↔ Spec.ofText .yaml other yaml = .ok spec)
      ∧ (document.HasNullForParts → ∀ source spec, Spec.ofText .json source json ≠ .ok spec)
      ∧ (document.HasListForRecord → ∀ source spec, Spec.ofText .yaml source yaml ≠ .ok spec)
      ∧ ∀ source other spec spec', Spec.ofText .json source json = .ok spec →
          Spec.ofText .yaml other yaml = .ok spec' → spec = spec' := by
  simp only [Spec.ofText_json_eq_ok_iff hjson, Spec.ofText_eq_ok_iff hyaml hblank,
    SpecFormat.dialect, Spec.ofDocument_eq_option, forall_const, ne_eq]
  have hnull : document.HasNullForParts → _ := fun h => Spec.agrees_option.refuses_null h
  have hlist : document.HasListForRecord → _ := fun h => Spec.agrees_option.refuses_list h
  refine ⟨fun hnone hnone' spec => ?_, hnull, hlist, fun spec spec' hspec hspec' => ?_⟩
  · rw [Spec.agrees_option.eq hnone hnone']
  · have heq := Spec.agrees_option.eq (fun h => hnull h _ hspec) fun h => hlist h _ hspec'
    exact Except.ok.inj (hspec.symm.trans (heq.trans hspec'))

/-- A manifest in which values are absent where they may be. -/
def sparseManifest : Document :=
  .record [("kind", .null), ("spec", .record [("outputs", .list [.record
    [("endpoint", .text "https://sink"), ("name", .text "sink"), ("secret", .null),
      ("type", .text "http")]])])]

/-- The manifest in JSON. -/
def sparseJson : String :=
  "\x7b\"kind\": null, \"spec\": \x7b\"outputs\": [\x7b\"endpoint\": \"https://sink\", "
    ++ "\"name\": \"sink\", \"secret\": null, \"type\": \"http\"\x7d]\x7d\x7d"

/-- The manifest in YAML. -/
def sparseYaml : String :=
  "kind:\nspec:\n  outputs:\n  - endpoint: https://sink\n    name: sink\n"
    ++ "    secret:\n    type: http\n"

theorem restores_sparseJson : SpecFormat.json.Restores sparseJson sparseManifest :=
  ⟨sparseManifest, by decide +kernel, .refl _⟩

theorem restores_sparseYaml : SpecFormat.yaml.Restores sparseYaml sparseManifest :=
  ⟨sparseManifest, by decide +kernel, .refl _⟩

theorem mem_sparseYaml : 'k' ∈ sparseYaml.toList := .head _

/-- Both formats read the one output, for nothing stands where it may not. -/
theorem ofText_sparseManifest :
    ¬ sparseManifest.HasNullForParts ∧ ¬ sparseManifest.HasListForRecord
      ∧ ∀ source other spec, Spec.ofText .json source sparseJson = .ok spec ↔
          Spec.ofText .yaml other sparseYaml = .ok spec := by
  have hjson : Spec.ofText .json "" sparseJson = .ok sinkSpec :=
    (Spec.ofText_json_eq_ok_iff restores_sparseJson).2 rfl
  have hyaml : Spec.ofText .yaml "" sparseYaml = .ok sinkSpec :=
    (Spec.ofText_eq_ok_iff_of_mem restores_sparseYaml mem_sparseYaml (by decide)).2 rfl
  have hblank : sparseYaml.all Text.isBlank = false :=
    Text.not_all_isBlank_of_mem mem_sparseYaml (by decide)
  obtain ⟨hagree, hnull, hlist, -⟩ :=
    ofText_json_eq_ok_iff_yaml restores_sparseJson restores_sparseYaml
      fun hall => absurd (hblank.symm.trans hall) Bool.false_ne_true
  have hnoNull : ¬ sparseManifest.HasNullForParts := fun h => hnull h _ _ hjson
  have hnoList : ¬ sparseManifest.HasListForRecord := fun h => hlist h _ _ hyaml
  exact ⟨hnoNull, hnoList, hagree hnoNull hnoList⟩

/-- Whether texts in two formats stand for a document, and only that in the first is read as a
specification. -/
def SpecFormat.ReadsAlone (format other : SpecFormat) (text otherText : String)
    (document : Document) : Prop :=
  format.Restores text document ∧ other.Restores otherText document
    ∧ (∃ spec, ∀ source, Spec.ofText format source text = .ok spec)
    ∧ ∀ source spec, Spec.ofText other source otherText ≠ .ok spec

/-- YAML reads an absent value as a list. -/
theorem readsAlone_null : SpecFormat.yaml.ReadsAlone .json "outputs:" "\x7b\"outputs\": null\x7d"
    (.record [("outputs", .null)]) := by
  have hyaml : SpecFormat.yaml.Restores "outputs:" (.record [("outputs", .null)]) :=
    ⟨_, by decide +kernel, .refl _⟩
  have hjson : SpecFormat.json.Restores "\x7b\"outputs\": null\x7d"
      (.record [("outputs", .null)]) := ⟨_, by decide +kernel, .refl _⟩
  have hmem : 'o' ∈ "outputs:".toList := .head _
  refine ⟨hyaml, hjson, ⟨{}, fun source => ?_⟩, fun source spec => ?_⟩
  · exact (Spec.ofText_eq_ok_iff_of_mem hyaml hmem (by decide)).2 rfl
  · rw [Ne, Spec.ofText_json_eq_ok_iff hjson]
    rintro ⟨⟩

/-- JSON reads a list as an output. -/
theorem readsAlone_list :
    SpecFormat.json.ReadsAlone .yaml "\x7b\"outputs\": [[\"a\"]]\x7d" "outputs: [[a]]"
      (.record [("outputs", .list [.list [.text "a"]])]) := by
  have hjson : SpecFormat.json.Restores "\x7b\"outputs\": [[\"a\"]]\x7d"
      (.record [("outputs", .list [.list [.text "a"]])]) := ⟨_, by decide +kernel, .refl _⟩
  have hyaml : SpecFormat.yaml.Restores "outputs: [[a]]"
      (.record [("outputs", .list [.list [.text "a"]])]) := ⟨_, by decide +kernel, .refl _⟩
  have hmem : 'o' ∈ "outputs: [[a]]".toList := .head _
  refine ⟨hjson, hyaml, ⟨{ outputs := [{ name := "a" }] }, fun source => ?_⟩,
    fun source spec => ?_⟩
  · exact (Spec.ofText_json_eq_ok_iff hjson).2 rfl
  · rw [Ne, Spec.ofText_eq_ok_iff_of_mem hyaml hmem (by decide)]
    rintro ⟨⟩

/-- Each format reads what the other one does not: YAML an absent value for a list, JSON a list for
an output, and in YAML a text of a no-break space, which stands for itself, is taken for nothing. -/
theorem exists_readsAlone :
    SpecFormat.yaml.ReadsAlone .json "outputs:" "\x7b\"outputs\": null\x7d"
        (.record [("outputs", .null)])
      ∧ SpecFormat.json.ReadsAlone .yaml "\x7b\"outputs\": [[\"a\"]]\x7d" "outputs: [[a]]"
        (.record [("outputs", .list [.list [.text "a"]])])
      ∧ SpecFormat.yaml.ReadsAlone .json "\u00A0" "\"\u00A0\"" (.text "\u00A0") := by
  have hjson : SpecFormat.json.Restores "\"\u00A0\"" (.text "\u00A0") := ⟨_, by decide +kernel, .refl _⟩
  have hyaml : SpecFormat.yaml.Restores "\u00A0" (.text "\u00A0") := ⟨_, by decide +kernel, .refl _⟩
  have hblank : "\u00A0".all Text.isBlank = true := by
    rw [String.all_bool_eq]
    rfl
  refine ⟨readsAlone_null, readsAlone_list, hyaml, hjson, ⟨{}, fun source => ?_⟩, ?_⟩
  · rw [Spec.ofText, if_pos hblank]
  · intro source spec
    rw [Ne, Spec.ofText_json_eq_ok_iff hjson]
    rintro ⟨⟩

end LogForwarding

import LogForwarding.Document.Spec
import LogForwarding.Proofs.Document.Rearranged

/-!
# Specifications and their documents

Writing a specification leaves out what means the same as nothing: an empty name, labels
without an entry, an option that is not there. Reading starts from an empty record, so that
what was left out comes back, and what was written comes back in its place.

An output kind is written as its name. A kind that is not recognized has the name that was
read, and a kind that is not recognized but has the name of one that is could not be told
from it; no document is read as one. `Spec.IsCanonical` says that there is none.

## What is proved

* `Spec.stable_reader`: the order of entries does not matter to the reader of specifications,
  nor to that of any part.
* `Spec.reader_toDocument`: a canonical specification is read back from its document.
* `Spec.isCanonical_of_reader`: a specification that is read is canonical.
-/

namespace LogForwarding

open Reader (stable_text stable_bool stable_record)
open LogForwarding.Field (stable_of stable_of_map commute_of preserves_of)

variable {dialect : Dialect}

/-! ### Any order -/

theorem OutputKind.stable_reader : OutputKind.reader.Stable := stable_text.map ofName

theorem SecretRef.stable_reader : (SecretRef.reader dialect).Stable :=
  stable_record (stable_of rfl stable_text) (List.pairwise_singleton _ _)

theorem Tuning.stable_reader : (Tuning.reader dialect).Stable := by
  refine stable_record
    ⟨stable_of rfl stable_text, stable_of rfl stable_text, stable_of rfl stable_bool⟩ ?_
  simp only [List.pairwise_cons, List.forall_mem_cons, List.not_mem_nil, false_implies,
    implies_true, and_true, List.Pairwise.nil]
  and_intros <;> exact commute_of rfl rfl fun _ _ _ => rfl

theorem Output.stable_reader : (Output.reader dialect).Stable := by
  refine stable_record ⟨stable_of rfl stable_text, stable_of rfl OutputKind.stable_reader,
    stable_of rfl stable_text, stable_of rfl SecretRef.stable_reader.option,
    stable_of rfl Tuning.stable_reader.option⟩ ?_
  simp only [List.pairwise_cons, List.forall_mem_cons, List.not_mem_nil, false_implies,
    implies_true, and_true, List.Pairwise.nil]
  and_intros <;> exact commute_of rfl rfl fun _ _ _ => rfl

theorem Pipeline.stable_reader : (Pipeline.reader dialect).Stable := by
  refine stable_record ⟨stable_of rfl stable_text, stable_of rfl stable_text.list,
    stable_of rfl stable_text.list,
    @stable_of_map _ _ _ "labels" _ Dictionary.ofList
      (fun (pipeline : Pipeline) labels => { pipeline with labels }) Reader.stable_dictionary,
    stable_of rfl stable_text.option⟩ ?_
  simp only [List.pairwise_cons, List.forall_mem_cons, List.not_mem_nil, false_implies,
    implies_true, and_true, List.Pairwise.nil]
  and_intros <;> exact commute_of rfl rfl fun _ _ _ => rfl

theorem ApplicationSource.stable_reader : (ApplicationSource.reader dialect).Stable :=
  stable_record (stable_of rfl stable_text.list) (List.pairwise_singleton _ _)

theorem Input.stable_markReader {name : String} : (Input.markReader dialect name).Stable := by
  refine Reader.Stable.map (Reader.Stable.option (stable_record ?_ .nil)) _
  exact trivial

theorem Input.stable_reader : (Input.reader dialect).Stable := by
  refine stable_record ⟨stable_of rfl stable_text,
    stable_of rfl ApplicationSource.stable_reader.option, stable_of rfl stable_markReader,
    stable_of rfl stable_markReader⟩ ?_
  simp only [List.pairwise_cons, List.forall_mem_cons, List.not_mem_nil, false_implies,
    implies_true, and_true, List.Pairwise.nil]
  and_intros <;> exact commute_of rfl rfl fun _ _ _ => rfl

theorem OutputDefaults.stable_reader : (OutputDefaults.reader dialect).Stable :=
  stable_record (stable_of rfl Tuning.stable_reader.option) (List.pairwise_singleton _ _)

/-- **The order of entries** does not matter, at any depth of a specification. -/
theorem Spec.stable_reader : (Spec.reader dialect).Stable := by
  refine stable_record ⟨stable_of rfl Output.stable_reader.list,
    stable_of rfl Pipeline.stable_reader.list, stable_of rfl Input.stable_reader.list,
    stable_of rfl stable_bool, stable_of rfl OutputDefaults.stable_reader.option⟩ ?_
  simp only [List.pairwise_cons, List.forall_mem_cons, List.not_mem_nil, false_implies,
    implies_true, and_true, List.Pairwise.nil]
  and_intros <;> exact commute_of rfl rfl fun _ _ _ => rfl

/-! ### Names of their own -/

namespace OutputKind

/-- Whether a kind does not pass a recognized one's name for that of an unknown one. -/
def IsCanonical (kind : OutputKind) : Prop :=
  ∀ known : OutputKind, known.isRecognized → kind ≠ .unrecognized known.name

theorem isCanonical_iff {kind : OutputKind} : kind.IsCanonical ↔ ofName kind.name = kind := by
  constructor
  · intro h
    cases kind with
    | unrecognized written =>
      cases hname : ofName written with
      | unrecognized other =>
        have hother := name_ofName written
        rw [hname] at hother
        exact hname.trans (congrArg unrecognized hother)
      | _ =>
        refine absurd (congrArg unrecognized (name_ofName written).symm) (h (ofName written) ?_)
        rw [hname]
        rfl
    | _ => exact ofName_name_of_isRecognized rfl
  · rintro h known hknown rfl
    rw [name, ofName_name_of_isRecognized hknown] at h
    rw [h] at hknown
    cases hknown

/-- The kind of a written name is canonical. -/
theorem isCanonical_ofName (written : String) : (ofName written).IsCanonical :=
  isCanonical_iff.2 (congrArg ofName (name_ofName written))

instance (kind : OutputKind) : Decidable kind.IsCanonical := decidable_of_iff' _ isCanonical_iff

end OutputKind

/-- Whether the kind of an output is canonical. -/
def Output.IsCanonical (output : Output) : Prop := output.kind.IsCanonical

instance (output : Output) : Decidable output.IsCanonical :=
  inferInstanceAs (Decidable output.kind.IsCanonical)

/-- Whether all outputs of a specification are canonical. -/
def Spec.IsCanonical (spec : Spec) : Prop := ∀ output ∈ spec.outputs, output.IsCanonical

instance (spec : Spec) : Decidable spec.IsCanonical :=
  inferInstanceAs (Decidable (∀ output ∈ spec.outputs, output.IsCanonical))

theorem Output.isCanonical_of_reader {document : Document} {output : Output}
    (h : Output.reader dialect document = .ok output) : output.IsCanonical := by
  have hkind : ∀ document kind, OutputKind.reader document = .ok kind → kind.IsCanonical := by
    intro document kind hread
    obtain ⟨written, -, rfl⟩ := map_eq_ok_iff.1 hread
    exact OutputKind.isCanonical_ofName written
  refine Reader.record_preserves ?_ (by decide) h
  refine ⟨?_, preserves_of rfl fun document kind _ hread _ => hkind document kind hread, ?_, ?_, ?_⟩
  all_goals exact preserves_of rfl fun _ _ _ _ hcanonical => hcanonical

/-- **What is read is canonical.** -/
theorem Spec.isCanonical_of_reader {document : Document} {spec : Spec}
    (h : Spec.reader dialect document = .ok spec) : spec.IsCanonical := by
  have houtputs : ∀ document outputs, Reader.list dialect (Output.reader dialect) document =
      .ok outputs → ∀ output ∈ outputs, output.IsCanonical := by
    intro document outputs hread
    exact Reader.forall_mem_of_list (fun _ _ => Output.isCanonical_of_reader) hread
  refine Reader.record_preserves ?_ (by decide) h
  refine ⟨preserves_of rfl fun document outputs _ hread _ => houtputs document outputs hread,
    ?_, ?_, ?_, ?_⟩
  all_goals exact preserves_of rfl fun _ _ _ _ hcanonical => hcanonical

/-! ### Reading back -/

namespace Reader

@[simp] theorem list_texts {values : List String} :
    list dialect text (Document.texts values) = .ok values :=
  list_map fun _ _ => rfl

@[simp] theorem textEntries_labels {labels : Dictionary String} :
    textEntries dialect (Labels.toDocument labels) = .ok labels.entries := by
  rw [Labels.toDocument, textEntries_record_eq_ok_iff, List.forall₂_map_left_iff,
    List.forall₂_same]
  exact fun _ _ => ⟨rfl, rfl⟩

end Reader

theorem SecretRef.reader_toDocument (ref : SecretRef) :
    SecretRef.reader dialect ref.toDocument = .ok ref := rfl

theorem Tuning.reader_toDocument (tuning : Tuning) :
    Tuning.reader dialect tuning.toDocument = .ok tuning := by
  obtain ⟨key, name, logs⟩ := tuning
  by_cases hkey : key = "" <;> by_cases hname : name = "" <;>
    simp [reader, toDocument, Document.textEntry, Reader.recordOfEntries, hkey, hname]

/-- An optional value that is there is read back. -/
theorem Tuning.option_toDocument (tuning : Tuning) :
    Reader.option (Tuning.reader dialect) tuning.toDocument = .ok (some tuning) :=
  Reader.option_eq_ok tuning.reader_toDocument nofun

theorem Output.reader_toDocument {output : Output} (h : output.IsCanonical) :
    Output.reader dialect output.toDocument = .ok output := by
  obtain ⟨name, kind, url, secret, elasticsearch⟩ := output
  have hkind : OutputKind.reader kind.toDocument = .ok kind :=
    congrArg Except.ok (OutputKind.isCanonical_iff.1 h)
  have hsecret (ref : SecretRef) :
      Reader.option (SecretRef.reader dialect) ref.toDocument = .ok (some ref) :=
    Reader.option_eq_ok ref.reader_toDocument nofun
  cases secret <;> cases elasticsearch <;>
    simp [reader, toDocument, Document.optionalEntry, Reader.recordOfEntries, hkind, hsecret,
      Tuning.option_toDocument]

theorem Pipeline.reader_toDocument (pipeline : Pipeline) :
    Pipeline.reader dialect pipeline.toDocument = .ok pipeline := by
  obtain ⟨name, inputRefs, outputRefs, labels, parse⟩ := pipeline
  by_cases hname : name = "" <;> by_cases hlabels : labels.isEmpty <;> cases parse <;>
    simp [reader, toDocument, Document.optionalEntry, Document.textEntry, Reader.recordOfEntries,
      hname, hlabels] <;>
    exact (Dictionary.isEmpty_iff.1 hlabels).symm

theorem ApplicationSource.reader_toDocument (source : ApplicationSource) :
    ApplicationSource.reader dialect source.toDocument = .ok source := by
  simp [reader, toDocument, Reader.recordOfEntries]

/-- A source without settings is told from one that is not there. -/
theorem Input.reader_toDocument (input : Input) :
    Input.reader dialect input.toDocument = .ok input := by
  obtain ⟨name, application, infrastructure, audit⟩ := input
  have happlication (source : ApplicationSource) :
      Reader.option (ApplicationSource.reader dialect) source.toDocument = .ok (some source) :=
    Reader.option_eq_ok source.reader_toDocument nofun
  cases application <;> cases infrastructure <;> cases audit <;>
    simp [reader, toDocument, Document.optionalEntry, markEntry, markReader,
      Reader.recordOfEntries, happlication]

theorem OutputDefaults.reader_toDocument (defaults : OutputDefaults) :
    OutputDefaults.reader dialect defaults.toDocument = .ok defaults := by
  obtain ⟨elasticsearch⟩ := defaults
  cases elasticsearch <;>
    simp [reader, toDocument, Document.optionalEntry, Reader.recordOfEntries,
      Tuning.option_toDocument]

/-- **A canonical specification is read back** from its document. -/
theorem Spec.reader_toDocument {spec : Spec} (h : spec.IsCanonical) :
    Spec.reader dialect spec.toDocument = .ok spec := by
  obtain ⟨outputs, pipelines, inputs, disableDefaultForwarding, outputDefaults⟩ := spec
  have houtputs : Reader.list dialect (Output.reader dialect)
      (.list (outputs.map (·.toDocument))) = .ok outputs :=
    Reader.list_map fun output hmem => Output.reader_toDocument (h output hmem)
  have hpipelines : Reader.list dialect (Pipeline.reader dialect)
      (.list (pipelines.map (·.toDocument))) = .ok pipelines :=
    Reader.list_map fun pipeline _ => pipeline.reader_toDocument
  have hinputs : Reader.list dialect (Input.reader dialect)
      (.list (inputs.map (·.toDocument))) = .ok inputs :=
    Reader.list_map fun input _ => input.reader_toDocument
  have hdefaults (defaults : OutputDefaults) :
      Reader.option (OutputDefaults.reader dialect) defaults.toDocument = .ok (some defaults) :=
    Reader.option_eq_ok defaults.reader_toDocument nofun
  cases outputDefaults <;>
    simp [reader, toDocument, Document.optionalEntry, Reader.recordOfEntries, houtputs,
      hpipelines, hinputs, hdefaults]

end LogForwarding

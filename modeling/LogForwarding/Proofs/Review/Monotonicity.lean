import Mathlib.Data.List.Forall2
import Mathlib.Data.Nat.Basic
import Mathlib.Order.Lattice
import LogForwarding.Proofs.Review.Pipelines

/-!
# More accepted outputs

A pipeline is kept for the sake of the outputs it sends to that were accepted, and a kept
pipeline takes its name from those behind it. So an output that is accepted in addition could
in principle hurt: it can bring back a pipeline, and this pipeline can take the name of one
that was kept so far (the last example below). Where the names of the pipelines are distinct
there is nothing to take, and no pipeline is worse off.

The two reviews that are compared give away different names. What carries the comparison
through both is that no name given away by the review with more outputs is that of a pipeline
still to come.

## What is proved

* `Pipeline.state_status_mono`: one pipeline, whose name the review with more outputs has not
  given away.
* `forall₂_reviewPipelinesFrom`: all pipelines from a position on.
* `PipelineReviews.sublistForall₂_kept`: better states are more kept pipelines.
* `isAtMost_reviewPipelines`: where names are distinct, more accepted outputs make no state
  worse, lose no pipeline and no reference, and no kind of logs.
-/

namespace LogForwarding

/-! ### What is better -/

namespace State

/-- How good a state is. -/
def rank : State → Nat
  | dropped => 0
  | degraded => 1
  | accepted => 2

theorem rank_injective : Function.Injective rank := by
  intro state other h
  cases state <;> cases other <;> first | rfl | cases h

/-- A dropped entity is worse off than a degraded one, and this than an accepted one. -/
instance : LinearOrder State := .lift' rank rank_injective

theorem dropped_le (state : State) : dropped ≤ state := Nat.zero_le state.rank

theorem le_accepted (state : State) : state ≤ accepted := by cases state <;> decide

theorem ne_dropped_of_le {state other : State} (hle : state ≤ other) (h : state ≠ dropped) :
    other ≠ dropped := by
  rintro rfl
  exact h (le_antisymm hle (dropped_le state))

example : dropped < degraded ∧ degraded < accepted := by decide

end State

/-- Whether a pipeline is another one that may have lost references to outputs. -/
structure Pipeline.IsRemainderOf (pipeline whole : Pipeline) : Prop where
  /-- It has some of the references, in their order. -/
  outputRefs : pipeline.outputRefs.Sublist whole.outputRefs
  /-- It differs in nothing else. -/
  eq_whole : pipeline = { whole with outputRefs := pipeline.outputRefs }

/-- Whether one finding is at least as good as another about the same pipeline. -/
structure PipelineReview.IsAtMost (review better : PipelineReview) : Prop where
  /-- They are about the same pipeline. -/
  pipeline_eq : review.pipeline = better.pipeline
  /-- The state is at least as good. -/
  state_le : review.status.state ≤ better.status.state

/-- **Whether one review is at least as good as another** of the same pipelines. -/
structure PipelineReviews.IsAtMost (fewer more : PipelineReviews) : Prop where
  /-- Every pipeline is in a state that is at least as good. -/
  reviews : List.Forall₂ PipelineReview.IsAtMost fewer.reviews more.reviews
  /-- What is kept is still kept, in its order, with the references that it has and maybe
  more. -/
  kept : List.SublistForall₂ Pipeline.IsRemainderOf fewer.kept more.kept
  /-- The kinds of logs that are forwarded still are. -/
  logSources : ∀ kind ∈ fewer.logSources, kind ∈ more.logSources

variable {inputs : List Input} {accepted more : List String} {owned : Ownership}

/-! ### One pipeline -/

namespace Pipeline

variable {pipeline : Pipeline} {taken takenMore : List String}

theorem lostRefs_eq_nil_iff :
    pipeline.lostRefs accepted = [] ↔ ∀ ref ∈ pipeline.outputRefs, ref ∈ accepted := by
  simp [lostRefs]

/-- A pipeline that is not at fault itself is no worse off with more accepted outputs. -/
theorem outputState_mono (h : accepted ⊆ more) :
    pipeline.outputState accepted ≤ pipeline.outputState more := by
  by_cases hkept : ∃ ref ∈ pipeline.outputRefs, ref ∈ accepted
  · have hmore : pipeline.keptRefs more ≠ [] := by
      rw [Ne, keptRefs_eq_nil_iff, not_not]
      exact hkept.imp fun ref href => ⟨href.1, h href.2⟩
    by_cases hlost : pipeline.lostRefs accepted = []
    · have hlostMore : pipeline.lostRefs more = [] :=
        lostRefs_eq_nil_iff.2 fun ref href => h (lostRefs_eq_nil_iff.1 hlost ref href)
      simp only [outputState, List.isEmpty_iff, if_neg hmore, if_pos hlostMore]
      exact State.le_accepted _
    · have hkept : pipeline.keptRefs accepted ≠ [] := by rwa [Ne, keptRefs_eq_nil_iff, not_not]
      simp only [outputState, List.isEmpty_iff, if_neg hkept, if_neg hlost, if_neg hmore]
      split_ifs <;> decide
  · have hdropped : pipeline.outputState accepted = .dropped := by
      rwa [← outputState_ne_dropped_iff, not_not] at hkept
    rw [hdropped]
    exact State.dropped_le _

/-- **One pipeline is no worse off** with more accepted outputs, unless its name was given
away. -/
theorem state_status_mono (h : accepted ⊆ more) (hfree : pipeline.name ∉ takenMore)
    (position : Nat) :
    (pipeline.status inputs accepted owned taken position).state ≤
      (pipeline.status inputs more owned takenMore position).state := by
  by_cases hentry : pipeline.entryConditions inputs owned taken = []
  · have hentryMore : pipeline.entryConditions inputs owned takenMore = [] :=
      entryConditions_eq_nil_iff.2 ⟨(entryConditions_eq_nil_iff.1 hentry).1, hfree⟩
    simp only [status, hentry, hentryMore, List.isEmpty_nil, if_true]
    exact outputState_mono h
  · have hdropped : (pipeline.status inputs accepted owned taken position).state = .dropped := by
      simp only [status, List.isEmpty_iff, if_neg hentry]
    rw [hdropped]
    exact State.dropped_le _

/-- With more accepted outputs a pipeline keeps the references that it kept, and maybe more. -/
theorem isRemainderOf_pruned (h : accepted ⊆ more) :
    (pipeline.pruned accepted).IsRemainderOf (pipeline.pruned more) where
  outputRefs := by
    rw [outputRefs_pruned, outputRefs_pruned]
    refine List.monotone_filter_right _ fun ref href => ?_
    exact decide_eq_true (h (of_decide_eq_true href))
  eq_whole := rfl

end Pipeline

/-! ### All pipelines -/

/-- **All pipelines from a position on**: none is worse off with more accepted outputs, where
their names are distinct and none was given away by the review with more outputs. -/
theorem forall₂_reviewPipelinesFrom {pipelines : List Pipeline} {takenMore : List String}
    (h : accepted ⊆ more) (hnames : (pipelines.map (·.name)).Nodup)
    (hfree : ∀ pipeline ∈ pipelines, pipeline.name ∉ takenMore) (taken : List String)
    (position : Nat) :
    List.Forall₂ PipelineReview.IsAtMost
      (reviewPipelinesFrom inputs accepted owned taken position pipelines)
      (reviewPipelinesFrom inputs more owned takenMore position pipelines) := by
  induction pipelines generalizing taken takenMore position with
  | nil => exact .nil
  | cons pipeline rest ih =>
    rw [List.map_cons, List.nodup_cons] at hnames
    have hhead : (pipeline.status inputs accepted owned taken position).state ≤
        (pipeline.status inputs more owned takenMore position).state :=
      Pipeline.state_status_mono h (hfree pipeline List.mem_cons_self) position
    refine .cons ⟨rfl, hhead⟩ (ih hnames.2 ?_ _ _)
    -- The only name that may be given away here is the first pipeline's, and no other has it.
    intro other hother
    have hne : other.name ≠ pipeline.name :=
      fun heq => hnames.1 (heq ▸ List.mem_map_of_mem hother)
    split_ifs
    · rw [List.mem_cons, not_or]
      exact ⟨hne, hfree other (List.mem_cons_of_mem _ hother)⟩
    · exact hfree other (List.mem_cons_of_mem _ hother)

namespace PipelineReviews

variable {fewer better : PipelineReviews}

/-- **Better states are more kept pipelines**, each with the references that it had. -/
theorem sublistForall₂_kept (haccepted : accepted ⊆ more) {reviews others : List PipelineReview}
    (h : List.Forall₂ PipelineReview.IsAtMost reviews others) :
    List.SublistForall₂ Pipeline.IsRemainderOf
      ((reviews.filter (·.isKept)).map (·.pipeline.pruned accepted))
      ((others.filter (·.isKept)).map (·.pipeline.pruned more)) := by
  induction h with
  | nil => exact .nil
  | @cons review other _ _ hhead _ ih =>
    by_cases hkept : review.isKept
    · have hother : other.isKept := PipelineReview.isKept_iff.2
        (State.ne_dropped_of_le hhead.state_le (PipelineReview.isKept_iff.1 hkept))
      rw [List.filter_cons_of_pos hkept, List.filter_cons_of_pos hother, List.map_cons,
        List.map_cons, hhead.pipeline_eq]
      exact .cons (Pipeline.isRemainderOf_pruned haccepted) ih
    · rw [List.filter_cons_of_neg hkept, List.filter_cons]
      split_ifs
      · exact .cons_right ih
      · exact ih

/-- What is in a list has its counterpart in any list that embeds it. -/
theorem exists_of_mem_of_sublistForall₂ {α : Type} {R : α → α → Prop} {l others : List α} {a : α}
    (h : List.SublistForall₂ R l others) (ha : a ∈ l) : ∃ b ∈ others, R a b := by
  induction h with
  | nil => exact absurd ha List.not_mem_nil
  | @cons _ b _ _ hab _ ih =>
    rcases List.mem_cons.1 ha with rfl | hmem
    · exact ⟨b, List.mem_cons_self, hab⟩
    · exact (ih hmem).imp fun c hc => hc.imp_left (List.mem_cons_of_mem _)
  | cons_right _ ih => exact (ih ha).imp fun c hc => hc.imp_left (List.mem_cons_of_mem _)

/-- More kept pipelines forward more kinds of logs. -/
theorem mem_logSources_of_kept (hinputs : fewer.inputs = better.inputs)
    (h : List.SublistForall₂ Pipeline.IsRemainderOf fewer.kept better.kept) {kind : SourceKind}
    (hkind : kind ∈ fewer.logSources) : kind ∈ better.logSources := by
  obtain ⟨pipeline, hpipeline, ref, href, hresolve⟩ := mem_logSources.1 hkind
  obtain ⟨whole, hwhole, hremainder⟩ := exists_of_mem_of_sublistForall₂ h hpipeline
  rw [hremainder.eq_whole] at href
  exact mem_logSources.2 ⟨whole, hwhole, ref, href, hinputs ▸ hresolve⟩

end PipelineReviews

/-- **More accepted outputs never hurt**: where the names of the pipelines are distinct, every
pipeline ends in a state that is at least as good, what was kept is kept with the references
that it had, and the kinds of logs that were forwarded still are. -/
theorem isAtMost_reviewPipelines {pipelines : List Pipeline} (inputs : List Input)
    (owned : Ownership) (hnames : (pipelines.map (·.name)).Nodup) (h : accepted ⊆ more) :
    (reviewPipelines pipelines inputs accepted owned).IsAtMost
      (reviewPipelines pipelines inputs more owned) := by
  have hreviews : List.Forall₂ PipelineReview.IsAtMost
      (reviewPipelines pipelines inputs accepted owned).reviews
      (reviewPipelines pipelines inputs more owned).reviews :=
    forall₂_reviewPipelinesFrom h hnames (fun _ _ => List.not_mem_nil) [] 0
  have hkept : List.SublistForall₂ Pipeline.IsRemainderOf
      (reviewPipelines pipelines inputs accepted owned).kept
      (reviewPipelines pipelines inputs more owned).kept :=
    PipelineReviews.sublistForall₂_kept h hreviews
  exact { reviews := hreviews, kept := hkept
          logSources := fun _ => PipelineReviews.mem_logSources_of_kept (by rfl) hkept }

/-- One pipeline that was degraded is accepted, and one that was dropped is back. -/
theorem isAtMost_reviewPipelines_bulk :
    (reviewPipelines
      [{ name := "logs", inputRefs := ["application"], outputRefs := ["es", "bulk"] },
        { name := "trail", inputRefs := ["audit"], outputRefs := ["bulk"] }]
      [] ["es"] {}).IsAtMost
    (reviewPipelines
      [{ name := "logs", inputRefs := ["application"], outputRefs := ["es", "bulk"] },
        { name := "trail", inputRefs := ["audit"], outputRefs := ["bulk"] }]
      [] ["es", "bulk"] {}) :=
  isAtMost_reviewPipelines [] {} (by decide) (by decide)

/-- Where two pipelines share a name, the output that brings back the first one costs the
second one its name. -/
example :
    (reviewPipelines
      [{ name := "logs", inputRefs := ["audit"], outputRefs := ["bulk"] },
        { name := "logs", inputRefs := ["application"], outputRefs := ["es"] }]
      [] ["es"] {}).statuses.map (·.state) = [.dropped, .accepted]
    ∧ (reviewPipelines
      [{ name := "logs", inputRefs := ["audit"], outputRefs := ["bulk"] },
        { name := "logs", inputRefs := ["application"], outputRefs := ["es"] }]
      [] ["es", "bulk"] {}).statuses.map (·.state) = [.accepted, .dropped] := by decide

end LogForwarding

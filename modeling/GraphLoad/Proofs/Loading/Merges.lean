import GraphLoad.Proofs.CommandLine.Layers
import Mathlib.Data.List.Induction

/-! Options under layers that are merged into them one after the other: what each merge leaves in
use, and in which runs the options in use keep their limits throughout. -/

namespace GraphLoad

/-- A layer that gives no limit away. -/
structure OptionLayer.WithinLimits (layer : OptionLayer) : Prop where
  /-- No batch is empty. -/
  batchSize : layer.batchSize ≠ some 0
  /-- The file has a name. -/
  sourceName : layer.sourceName ≠ some ""

/-- Layers one above the other as a single one: of those that give an option the last counts. -/
def OptionLayer.stacked (layers : List OptionLayer) : OptionLayer where
  strictTyping := layers.reverse.findSome? OptionLayer.strictTyping
  method := layers.reverse.findSome? OptionLayer.method
  batchSize := layers.reverse.findSome? OptionLayer.batchSize
  sourceName := layers.reverse.findSome? OptionLayer.sourceName
  fileDirectory := layers.reverse.findSome? OptionLayer.fileDirectory

namespace LoadOptions

/-- The options in use after some merges, whatever these report. -/
def mergeAll (o : LoadOptions) (layers : List OptionLayer) : LoadOptions :=
  layers.foldl (fun before layer => (before.merge layer).1) o

/-- A merge that takes care of the options in use. -/
structure MergesSafely (before : LoadOptions) (layer : OptionLayer) : Prop where
  /-- Behind the merge they keep the limits in any case. -/
  within : (before.merge layer).1.problems = []
  /-- Where it fails, they are as they were. -/
  restored : ∀ e, (before.merge layer).2 = .error e → (before.merge layer).1 = before

/-- A run of merges each of which takes care of the options in use. -/
def RunsSafely (o : LoadOptions) (layers : List OptionLayer) : Prop :=
  ∀ earlier layer later, layers = earlier ++ layer :: later →
    (o.mergeAll earlier).MergesSafely layer

/-- What the last merge of a run does. -/
structure Merged (o : LoadOptions) (layers : List OptionLayer)
    (result : LoadOptions × Except OptionError Unit) : Prop where
  /-- It leaves in use what all layers make of the first options. -/
  inUse : result.1.Layered (.stacked layers) o
  /-- It succeeds exactly if these keep the limits. -/
  accepted : result.2 = .ok () ↔ result.1.problems = []
  /-- It fails exactly with the limits that these break. -/
  refused : ∀ e, result.2 = .error e ↔
    result.1.problems ≠ [] ∧ .outOfRange result.1.problems = e

variable {o : LoadOptions} {layer : OptionLayer} {layers : List OptionLayer}

/-- The last layer is merged into what the others leave. -/
theorem mergeAll_append_singleton (o : LoadOptions) (layers : List OptionLayer)
    (layer : OptionLayer) :
    o.mergeAll (layers ++ [layer]) = ((o.mergeAll layers).merge layer).1 := by
  simp [mergeAll]

/-- A run of merges leaves the first options under all layers at once. -/
theorem mergeAll_eq_overlay (o : LoadOptions) (layers : List OptionLayer) :
    o.mergeAll layers = o.overlay (.stacked layers) := by
  -- The last layer gives an option, or leaves it to the layers in front.
  induction layers using List.reverseRecOn with
  | nil => rfl
  | append_singleton layers layer ih =>
    rw [mergeAll_append_singleton, ih]
    have last : ∀ {β : Type} (given : OptionLayer → Option β) (below : β),
        (given layer).getD ((layers.reverse.findSome? given).getD below) =
          ((layers ++ [layer]).reverse.findSome? given).getD below := by
      intro β given below
      rw [List.reverse_append, List.reverse_singleton, List.singleton_append, List.findSome?_cons]
      cases given layer <;> rfl
    simp only [merge, overlay, OptionLayer.stacked, last]

/-- A merge is accepted exactly where what it leaves in use keeps the limits. -/
theorem merge_eq_ok_iff :
    (o.merge layer).2 = .ok () ↔ (o.merge layer).1.problems = [] := by
  simp [merge, map_eq_ok_iff, checked_eq_ok_iff]

/-- A merge is refused exactly for the limits that it leaves broken. -/
theorem merge_eq_error_iff {e : OptionError} :
    (o.merge layer).2 = .error e ↔
      (o.merge layer).1.problems ≠ [] ∧ .outOfRange (o.merge layer).1.problems = e := by
  rw [← checked_eq_error_iff]
  simp only [merge]
  cases (o.overlay layer).checked <;> simp [Except.map]

/-- Options within the limits stay there under a layer exactly if it gives none away. -/
theorem problems_merge_iff (valid : o.problems = []) :
    (o.merge layer).1.problems = [] ↔ layer.WithinLimits := by
  obtain ⟨positive, named⟩ := problems_eq_nil_iff.mp valid
  -- An option that the layer does not give is the one from before, which keeps its limit.
  have size : layer.batchSize.getD o.batchSize ≠ 0 ↔ layer.batchSize ≠ some 0 := by
    cases layer.batchSize <;> simp [positive]
  have file : layer.sourceName.getD o.sourceName ≠ "" ↔ layer.sourceName ≠ some "" := by
    cases layer.sourceName <;> simp [named]
  rw [problems_eq_nil_iff]
  simp only [merge, overlay, size, file]
  exact ⟨fun ⟨first, second⟩ => ⟨first, second⟩, fun ⟨first, second⟩ => ⟨first, second⟩⟩

/-- A merge into options within the limits takes care of them exactly if the layer gives none away.
-/
theorem mergesSafely_iff (valid : o.problems = []) : o.MergesSafely layer ↔ layer.WithinLimits := by
  constructor
  · intro safe
    exact (problems_merge_iff valid).mp safe.within
  · intro within
    -- A merge that keeps the limits does not fail, so nothing has to be restored.
    have kept := (problems_merge_iff valid).mpr within
    exact ⟨kept, fun e failed => absurd kept (merge_eq_error_iff.mp failed).1⟩

/-- A merge that fails on options within the limits leaves others in use. -/
theorem merge_ne_of_failed (valid : o.problems = []) {e : OptionError}
    (failed : (o.merge layer).2 = .error e) : (o.merge layer).1 ≠ o := by
  -- What is left breaks limits, and the options before did not.
  intro same
  exact (merge_eq_error_iff.mp failed).1 (same.symm ▸ valid)

/-- Layers that give no limit away leave options within the limits. -/
theorem problems_mergeAll (valid : o.problems = [])
    (each : ∀ layer ∈ layers, layer.WithinLimits) : (o.mergeAll layers).problems = [] := by
  -- One merge after the other keeps what the merges in front have kept.
  induction layers using List.reverseRecOn with
  | nil => exact valid
  | append_singleton layers layer ih =>
    rw [mergeAll_append_singleton]
    have before := ih fun other member => each other (List.mem_append_left _ member)
    exact (problems_merge_iff before).mpr (each layer (by simp))

/-- In a safe run, the options in use keep the limits in front of each merge. -/
theorem RunsSafely.problems_eq_nil (safe : o.RunsSafely layers) (valid : o.problems = [])
    {earlier later : List OptionLayer} (split : layers = earlier ++ later) :
    (o.mergeAll earlier).problems = [] := by
  rcases List.eq_nil_or_concat' earlier with rfl | ⟨front, last, rfl⟩
  · exact valid
  · rw [mergeAll_append_singleton]
    exact (safe front last later (by simp [split])).within

/-- A merge leaves in use what all layers so far make, and fails for the limits that this breaks. So
a run takes care of options within the limits exactly if no layer gives one away. -/
theorem runsSafely_iff (valid : o.problems = []) (layers : List OptionLayer) :
    (∀ earlier layer, o.Merged (earlier ++ [layer]) ((o.mergeAll earlier).merge layer)) ∧
      (∀ earlier layer e, (o.mergeAll earlier).problems = [] →
        ((o.mergeAll earlier).merge layer).2 = .error e →
        ((o.mergeAll earlier).merge layer).1 ≠ o.mergeAll earlier) ∧
      (o.RunsSafely layers ↔ ∀ layer ∈ layers, layer.WithinLimits) := by
  refine ⟨?_, fun _ _ _ kept failed => merge_ne_of_failed kept failed, ?_, ?_⟩
  · intro earlier layer
    refine ⟨?_, merge_eq_ok_iff, fun e => merge_eq_error_iff⟩
    rw [← mergeAll_append_singleton, mergeAll_eq_overlay]
    exact layered_overlay o _
  · -- Safe steps have kept the limits up to any layer, so its own merge is safe only within them.
    intro safe layer member
    obtain ⟨earlier, later, split⟩ := List.append_of_mem member
    have before := safe.problems_eq_nil valid split
    exact (mergesSafely_iff before).mp (safe earlier layer later split)
  · rintro each earlier layer later rfl
    have before := problems_mergeAll valid fun other member =>
      each other (List.mem_append_left _ member)
    exact (mergesSafely_iff before).mpr (each layer (by simp))

/-- A run whose second merge fails and whose third one mends what the second left behind. -/
theorem runsSafely_iff_mended :
    ({} : LoadOptions).problems = [] ∧
      ({} : LoadOptions).Merged
        ([{ batchSize := some 500 }, { batchSize := some 0 }] ++ [{ batchSize := some 20 }])
        ((({} : LoadOptions).mergeAll [{ batchSize := some 500 }, { batchSize := some 0 }]).merge
          { batchSize := some 20 }) ∧
      ¬({} : LoadOptions).RunsSafely
        [{ batchSize := some 500 }, { batchSize := some 0 }, { batchSize := some 20 }] := by
  have valid : ({} : LoadOptions).problems = [] := by decide
  obtain ⟨merged, -, safely⟩ := runsSafely_iff valid
    [{ batchSize := some 500 }, { batchSize := some 0 }, { batchSize := some 20 }]
  -- The layer in the middle gives the batch away.
  refine ⟨valid, merged _ _, fun safe => ?_⟩
  exact (safely.mp safe { batchSize := some 0 } (by simp)).batchSize rfl

/-- A batch without rows is refused and stays in use all the same. -/
theorem emptyBatch_stays_in_use :
    ({ batchSize := 500 } : LoadOptions).problems = [] ∧
      (({ batchSize := 500 } : LoadOptions).merge { batchSize := some 0 }).2 =
        .error (.outOfRange [.emptyBatch]) ∧
      ¬({ batchSize := 500 } : LoadOptions).RunsSafely [{ batchSize := some 0 }] := by
  refine ⟨by decide, rfl, fun safe => ?_⟩
  have kept := (safe [] { batchSize := some 0 } [] rfl).within
  exact absurd kept (by decide)

end LoadOptions

end GraphLoad

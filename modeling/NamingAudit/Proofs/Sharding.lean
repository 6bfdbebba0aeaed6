import NamingAudit.Proofs.Evaluation

/-! Evaluation in shards. All that finalizing takes from a report is which diagnostics come first among
those that tie, and of a merged report these are the ones of its parts. A part that is finalized early
keeps them, so merging the reports of shards and finalizing once more gives the report of the whole. -/

namespace NamingAudit
open Std

namespace Report

structure Alike (first second : Report) : Prop where
  factsChecked : first.factsChecked = second.factsChecked
  foremost : ∀ diagnostic, first.diagnostics.find? (Order.ties compare diagnostic) =
    second.diagnostics.find? (Order.ties compare diagnostic)

theorem alike_refl (report : Report) : report.Alike report := ⟨rfl, fun _ => rfl⟩

theorem alike_finalize (report : Report) : report.finalize.Alike report :=
  ⟨rfl, report.finalize_isDistinctSort.first⟩

/-- Finalizing keeps what comes first among ties and the number of facts, and nothing else. -/
theorem finalize_eq_iff {first second : Report} :
    first.finalize = second.finalize ↔ first.Alike second := by
  constructor
  · intro same
    have counts : first.finalize.factsChecked = second.finalize.factsChecked := by rw [same]
    refine ⟨counts, fun diagnostic => ?_⟩
    rw [← (alike_finalize first).foremost, same, (alike_finalize second).foremost]
  · intro alike
    have distinct : Order.IsDistinctSort compare first.diagnostics second.finalize.diagnostics :=
      ⟨second.finalize_isDistinctSort.ascending, fun diagnostic =>
        ((alike_finalize second).foremost diagnostic).trans (alike.foremost diagnostic).symm⟩
    have diagnostics := first.finalize_isDistinctSort.unique distinct
    calc
      first.finalize = ⟨first.finalize.diagnostics, first.factsChecked⟩ := rfl
      _ = ⟨second.finalize.diagnostics, second.factsChecked⟩ := by
        rw [diagnostics, alike.factsChecked]
      _ = second.finalize := rfl

theorem Alike.extend {first first' second second' : Report} (one : first.Alike first')
    (other : second.Alike second') : (first.extend second).Alike (first'.extend second') := by
  refine ⟨?_, fun diagnostic => ?_⟩
  · change first.factsChecked + second.factsChecked = first'.factsChecked + second'.factsChecked
    rw [one.factsChecked, other.factsChecked]
  · change (first.diagnostics ++ second.diagnostics).find? _ =
      (first'.diagnostics ++ second'.diagnostics).find? _
    rw [List.find?_append, List.find?_append, one.foremost, other.foremost]

theorem Alike.foldl_extend {parts parts' : List Report} (alike : List.Forall₂ Alike parts parts')
    {before before' : Report} (start : before.Alike before') :
    (parts.foldl Report.extend before).Alike (parts'.foldl Report.extend before') := by
  induction alike generalizing before before' with
  | nil => exact start
  | cons one _ ih => exact ih (start.extend one)

def merged (parts : List Report) : Report := parts.foldl extend empty

theorem finalize_merged_congr {parts parts' : List Report}
    (alike : List.Forall₂ Alike parts parts') :
    (merged parts).finalize = (merged parts').finalize :=
  finalize_eq_iff.mpr (Alike.foldl_extend alike (alike_refl empty))

def finalizedIf (early : Bool) (report : Report) : Report :=
  if early then report.finalize else report

theorem alike_finalizedIf (early : Bool) (report : Report) :
    (report.finalizedIf early).Alike report := by
  cases early with
  | true => exact alike_finalize report
  | false => exact alike_refl report

end Report

namespace Evaluator
open Report

theorem evaluate_flatten (evaluator : Evaluator) (shards : List (List Fact)) :
    evaluator.evaluate shards.flatten = (merged (shards.map evaluator.evaluate)).finalize := by
  have alike : List.Forall₂ Alike (shards.map evaluator.evaluate)
      (shards.map evaluator.gathered) := by
    rw [List.forall₂_map_left_iff, List.forall₂_map_right_iff, List.forall₂_same]
    intro shard _
    rw [evaluate_eq]
    exact alike_finalize (evaluator.gathered shard)
  rw [finalize_merged_congr alike, merged, foldl_extend_gathered, evaluate_eq]

theorem evaluate_append (evaluator : Evaluator) (first second : List Fact) :
    evaluator.evaluate (first ++ second) =
      ((evaluator.evaluate first).extend (evaluator.evaluate second)).finalize := by
  have flattened : [first, second].flatten = first ++ second := by simp
  have merging : merged ([first, second].map evaluator.evaluate) =
      (evaluator.evaluate first).extend (evaluator.evaluate second) :=
    congrArg (·.extend (evaluator.evaluate second)) (empty_extend (evaluator.evaluate first))
  rw [← flattened, evaluate_flatten, merging]

/-- The facts can be cut anywhere and into any number of shards, each evaluated on its own: the merged
reports, finalized, are the report of all facts, to the spelling of paths. A project is the merge of
its facts and of their composites, and it never matters which parts were finalized before a merge. -/
theorem evaluation_shards (evaluator : Evaluator) :
    (∀ first second, evaluator.evaluate (first ++ second) =
      ((evaluator.evaluate first).extend (evaluator.evaluate second)).finalize) ∧
      (∀ shards : List (List Fact),
        evaluator.evaluate shards.flatten = (merged (shards.map evaluator.evaluate)).finalize) ∧
      (∀ facts, evaluator.evaluateProject facts =
        ((evaluator.evaluate facts).extend
          (evaluator.evaluate (Composite.join facts))).finalize) ∧
      ∀ parts : List (Bool × Report),
        (merged (parts.map fun part => part.2.finalizedIf part.1)).finalize =
          (merged (parts.map Prod.snd)).finalize := by
  refine ⟨evaluator.evaluate_append, evaluator.evaluate_flatten, fun facts => ?_, fun parts => ?_⟩
  · exact evaluator.evaluate_append facts (Composite.join facts)
  · apply finalize_merged_congr
    rw [List.forall₂_map_left_iff, List.forall₂_map_right_iff, List.forall₂_same]
    exact fun part _ => alike_finalizedIf part.1 part.2

end Evaluator

end NamingAudit

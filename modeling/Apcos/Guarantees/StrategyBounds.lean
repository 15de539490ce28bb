import Apcos.Lib.Parts
import Apcos.Source.Python.Words
import Apcos.Guarantees.StrategyText

/-!
# Bounds of a strategy

core/cognition/reasoning_engine.py. What is presented of an answer is bounded in length
and number, and every step is a part of the collapsed answer: after the collapse all
gaps are single, so cutting and splitting it again only takes parts of it, in order.
-/
namespace Apcos.Guarantees.StrategyBounds

open Apcos.Lib
open Apcos.Lib.Search
open Apcos.Lib.Words
open Apcos.Source.Python
open Apcos.Source.Cognition
open Apcos.Guarantees.AnswerCuts
open Apcos.Guarantees.AnswerPassages (sentences)
open Apcos.Guarantees.StrategyText (generateStrategy_answered)

/-! ## Bounded texts -/

/-- What has been bounded stays as it is. -/
theorem boundText_boundText (limit : Nat) (text : List Char) :
    boundText limit (boundText limit text) = boundText limit text := by
  obtain ⟨rest, split⟩ := boundText_append limit text
  have within : boundText limit text <:+: collapse text := ⟨[], rest, by rw [split]; simp⟩
  have single := (collapse_singleGaps text).part within
  rw [boundText_of_short (boundText_length limit text),
    collapse_eq_self single (boundText_ends limit text)]

theorem cutLength_pos {limit : Nat} {cut : List Char} (some : cut ≠ []) :
    0 < cutLength limit cut := by
  unfold cutLength
  split
  · omega
  · split
    · rename_i index late
      unfold lateIndex at late
      split at late
      · cases late
      · split at late
        · cases late
          omega
        · cases late
    · exact List.length_pos_iff.mpr some

/-- A bound leaves something of what is not blank. -/
theorem boundText_ne_nil {limit : Nat} (positive : 0 < limit) {text : List Char}
    (some : collapse text ≠ []) : boundText limit text ≠ [] := by
  unfold boundText
  dsimp only
  split
  · exact some
  · obtain ⟨c, rest, shape⟩ := List.exists_cons_of_ne_nil some
    have visible : isSpace c = false := collapse_head (by rw [shape]; rfl)
    rw [Ne, trimChars_eq_nil]
    intro blank
    have cutSome : (collapse text).take limit ≠ [] := by
      rw [Ne, List.take_eq_nil_iff]
      exact not_or.mpr ⟨by omega, some⟩
    have first : c ∈ ((collapse text).take limit).take
        (cutLength limit ((collapse text).take limit)) := by
      obtain ⟨n, size⟩ := Nat.exists_eq_succ_of_ne_zero (cutLength_pos cutSome).ne'
      obtain ⟨m, bound⟩ := Nat.exists_eq_succ_of_ne_zero positive.ne'
      rw [size, bound, shape]
      exact List.mem_cons_self
    rw [blank c first] at visible
    cases visible

/-! ## Steps -/

/-- The pieces of a split occur in the text in order. -/
theorem splitRuns_inOrder (p : Char → Bool) (inRun : Bool) (piece text : List Char) :
    InOrder (splitRuns p inRun piece text) (piece.reverse ++ text) := by
  induction text generalizing piece inRun with
  | nil => exact .cons [] piece.reverse (.nil [])
  | cons c rest ih =>
    have after : InOrder (splitRuns p true [] rest) (c :: rest) := (ih true []).extend_left [c]
    rw [splitRuns]
    split
    · split
      · exact after.extend_left piece.reverse
      · exact .cons [] piece.reverse after
    · have read := ih false (c :: piece)
      rw [List.reverse_cons, List.append_assoc] at read
      exact read

theorem extractSteps_inOrder {text : List Char} (single : SingleGaps isSpace ' ' text) :
    InOrder (extractSteps text) text := by
  have pieces : InOrder (splitRuns endsSentence false [] text) text :=
    splitRuns_inOrder endsSentence false [] text
  have collapsed : InOrder ((splitRuns endsSentence false [] text).map collapse) text := by
    refine pieces.shrink (List.forall₂_map_left_iff.mpr (List.forall₂_same.mpr ?_))
    intro piece member
    exact collapse_within (single.part (pieces.infix_of_mem member))
  exact collapsed.of_sublist ((List.take_sublist _ _).trans List.filter_sublist)

theorem extractSteps_length (text : List Char) : (extractSteps text).length ≤ 5 :=
  List.length_take_le _ _

theorem extractSteps_ne_nil {text step : List Char} (member : step ∈ extractSteps text) :
    step ≠ [] ∧ ∃ piece, step = collapse piece := by
  have kept := List.mem_filter.mp (List.mem_of_mem_take member)
  obtain ⟨piece, -, same⟩ := List.mem_map.mp kept.1
  exact ⟨by simpa using kept.2, piece, same.symm⟩

/-- Collapsing a step again does nothing. -/
theorem collapse_step {text step : List Char} (member : step ∈ extractSteps text) :
    collapse step = step := by
  obtain ⟨-, piece, rfl⟩ := extractSteps_ne_nil member
  exact collapse_eq_self (collapse_singleGaps piece) (collapse_ends piece)

/-- What is kept of a step for little energy is a part of it. -/
theorem boundText_step_within {text step : List Char} (limit : Nat)
    (member : step ∈ extractSteps text) : boundText limit step <:+: step := by
  obtain ⟨rest, split⟩ := boundText_append limit step
  rw [collapse_step member] at split
  exact ⟨[], rest, by rw [List.nil_append, ← split]⟩

/-- The presented sentences are parts of the collapsed answer, in order. -/
theorem sentences_inOrder (raw : List Char) (low : Bool) :
    InOrder (sentences raw low) (collapse raw) := by
  obtain ⟨rest, split⟩ := boundText_append maxReasoningLength raw
  have single : SingleGaps isSpace ' ' (boundText maxReasoningLength raw) :=
    (collapse_singleGaps raw).part ⟨[], rest, by rw [split]; simp⟩
  have steps : InOrder (extractSteps (boundText maxReasoningLength raw)) (collapse raw) := by
    rw [split]
    exact (extractSteps_inOrder single).extend_right rest
  cases low with
  | false => exact steps
  | true =>
    have first := steps.of_sublist (List.take_sublist 1 _)
    refine first.shrink (List.forall₂_map_left_iff.mpr (List.forall₂_same.mpr ?_))
    exact fun step member => boundText_step_within 140 (List.mem_of_mem_take member)

/-- No sentence is empty or too long. -/
theorem sentences_bounded {raw sentence : List Char} {low : Bool}
    (member : sentence ∈ sentences raw low) :
    sentence ≠ [] ∧ sentence.length ≤ maxReasoningLength := by
  have step_bounded {step : List Char}
      (found : step ∈ extractSteps (boundText maxReasoningLength raw)) :
      step ≠ [] ∧ step.length ≤ maxReasoningLength := by
    obtain ⟨before, piece, after, whole, same, -⟩ := mem_extractSteps found
    have parts := congrArg List.length whole
    have limit := boundText_length maxReasoningLength raw
    have shorter := collapse_length piece
    simp only [List.length_append] at parts
    refine ⟨(extractSteps_ne_nil found).1, ?_⟩
    rw [same]
    omega
  cases low with
  | false => exact step_bounded member
  | true =>
    obtain ⟨step, first, rfl⟩ := List.mem_map.mp member
    have found := List.mem_of_mem_take first
    obtain ⟨visible, -⟩ := step_bounded found
    have kept : collapse step ≠ [] := by rwa [collapse_step found]
    have short := boundText_length 140 step
    have limit : maxReasoningLength = 420 := rfl
    exact ⟨boundText_ne_nil (by decide) kept, by omega⟩

/-! ## Outputs -/

def clarification : StructuredReasoningOutput :=
  ⟨advisoryOnlyMessage, ["Clarify your exact objective before requesting strategy output."], true,
    none⟩

def unavailable : StructuredReasoningOutput :=
  ⟨"Strategy generation is temporarily unavailable.", [], false, some "LLM_FAILURE"⟩

/-- The fixed summaries of an output without steps. -/
def fixedSummaries : List String :=
  [advisoryOnlyMessage, unavailable.summary,
    bounded (lowEnergySummaryPrefix ++ " Keep one priority and defer optional work.")]

/-- Lengths and number of what is presented; for little energy one short step, unless the
message is a fixed one. -/
structure BoundedOutput (low : Bool) (out : StructuredReasoningOutput) : Prop where
  summary : out.summary.length ≤ 420
  count : out.strategySteps.length ≤ 5
  steps : ∀ step ∈ out.strategySteps, step ≠ "" ∧ step.length ≤ 420
  one : low = true → (∃ step, out.strategySteps = [step] ∧ step.length ≤ 140) ∨
    out.strategySteps = [] ∧ out.summary ∈ fixedSummaries

/-- The steps are the client's words in the client's order, unless there was no answer. -/
def Quoted (words : WordClass) (py : Runtime) (client : String → Option String) (context : Dict)
    (out : StructuredReasoningOutput) : Prop :=
  (∃ raw, consult words py client (sanitizeContext context) = .ok (.answered raw) ∧
      InOrder (out.strategySteps.map String.toList) (collapse raw.toList)) ∨
    out = clarification ∨ out = unavailable

theorem bounded_length (text : String) : (bounded text).length ≤ 420 := by
  rw [bounded, String.length_ofList]
  exact boundText_length maxReasoningLength text.toList

theorem steps_bounded {raw : List Char} {low : Bool} {step : String}
    (member : step ∈ (sentences raw low).map String.ofList) : step ≠ "" ∧ step.length ≤ 420 := by
  obtain ⟨sentence, found, rfl⟩ := List.mem_map.mp member
  obtain ⟨visible, short⟩ := sentences_bounded found
  rw [String.length_ofList]
  refine ⟨?_, short⟩
  intro empty
  exact visible (String.ofList_eq_empty_iff.mp empty)

/-- An output without steps that shows a fixed summary. -/
theorem boundedOutput_of_fixed {low : Bool} {out : StructuredReasoningOutput}
    (noSteps : out.strategySteps = []) (fixed : out.summary ∈ fixedSummaries) :
    BoundedOutput low out where
  summary := by
    have short : ∀ text ∈ fixedSummaries, text.length ≤ 420 := by decide +kernel
    exact short out.summary fixed
  count := by rw [noSteps]; exact Nat.zero_le 5
  steps := by rw [noSteps]; exact fun step member => (by cases member)
  one := fun _ => Or.inr ⟨noSteps, fixed⟩

theorem bounded_advisory_fixed : bounded advisoryOnlyMessage ∈ fixedSummaries := by
  rw [StrategyText.bounded_advisory]
  exact List.mem_cons_self

/-- What becomes of the steps of an answer that passed the checks. -/
theorem extracted_bounded (raw : List Char) :
    let steps := extractSteps (boundText maxReasoningLength raw)
    BoundedOutput true (compressLowEnergyOutput steps) ∧
      BoundedOutput false
        ⟨((steps.head?).map String.ofList).getD noStrategy, steps.map String.ofList, true, none⟩ := by
  intro steps
  have full {step : String} (member : step ∈ steps.map String.ofList) :
      step ≠ "" ∧ step.length ≤ 420 := @steps_bounded raw false step member
  constructor
  · cases found : steps with
    | nil => exact boundedOutput_of_fixed rfl (by decide +kernel)
    | cons first rest =>
      have kept : boundText 140 first ∈ sentences raw true := by
        simp only [sentences, if_true]
        change boundText 140 first ∈ (steps.take 1).map (boundText 140)
        rw [found]
        exact List.mem_singleton_self _
      refine ⟨bounded_length _, Nat.le_add_left 1 4, ?_, fun _ => Or.inl ⟨_, rfl, ?_⟩⟩
      · intro step member
        exact steps_bounded (List.mem_map.mpr ⟨_, kept, (List.mem_singleton.mp member).symm⟩)
      · rw [String.length_ofList]
        exact boundText_length 140 first
  · refine ⟨?_, ?_, fun step member => full member, fun low => (by cases low)⟩
    · cases found : steps with
      | nil => decide
      | cons first rest => exact (full (by rw [found]; exact List.mem_cons_self)).2
    · rw [List.length_map]
      exact extractSteps_length _

theorem present_bounded (words : WordClass) (raw : String) (low : Bool) :
    BoundedOutput low (present words raw low) := by
  obtain ⟨compressed, plain⟩ := extracted_bounded raw.toList
  unfold present
  split
  · exact boundedOutput_of_fixed rfl bounded_advisory_fixed
  · split
    · exact boundedOutput_of_fixed rfl bounded_advisory_fixed
    · cases low with
      | true => exact compressed
      | false => exact plain

/-- The steps stand in the collapsed answer, in their order. -/
theorem present_quoted (words : WordClass) (raw : String) (low : Bool) :
    InOrder ((present words raw low).strategySteps.map String.toList) (collapse raw.toList) := by
  have quoted (sentences' : List (List Char)) (ordered : InOrder sentences' (collapse raw.toList)) :
      InOrder ((sentences'.map String.ofList).map String.toList) (collapse raw.toList) := by
    have same : String.toList ∘ String.ofList = id := funext fun _ => String.toList_ofList
    rw [List.map_map, same, List.map_id]
    exact ordered
  have parts := sentences_inOrder raw.toList low
  by_cases passes : StrategyText.Passes words raw.toList
  · rw [(StrategyText.present_of_passes passes low).2.1]
    exact quoted _ parts
  · have noSteps : (present words raw low).strategySteps = [] := by
      unfold present
      split
      · rfl
      · rename_i noCommand
        cases reason : findUnsafeReason words raw.toList with
        | some text => rfl
        | none => exact absurd ⟨Bool.not_eq_true _ ▸ noCommand, reason⟩ passes
    rw [noSteps]
    exact .nil _

/-- Whatever the client answers, the output is bounded and made of its words, and bounding
a text twice is bounding it once. -/
theorem strategy_bounded_and_quoted (words : WordClass) (py : Runtime)
    (client : String → Option String) (context : Dict) :
    (∀ out, generateStrategy words py client context = .ok out →
      BoundedOutput (lowEnergy (sanitizeContext context)) out ∧
        Quoted words py client context out) ∧
    ∀ limit text, boundText limit (boundText limit text) = boundText limit text := by
  refine ⟨?_, boundText_boundText⟩
  intro out generated
  cases consulted : consult words py client (sanitizeContext context) with
  | error exc =>
    simp only [generateStrategy, consulted] at generated
    cases generated
  | ok consultation =>
    cases consultation with
    | ambiguous =>
      simp only [generateStrategy, consulted] at generated
      cases generated
      refine ⟨⟨by decide, by decide, by decide, fun _ => Or.inl ⟨_, rfl, by decide⟩⟩, ?_⟩
      exact Or.inr (Or.inl rfl)
    | failed =>
      simp only [generateStrategy, consulted] at generated
      cases generated
      exact ⟨boundedOutput_of_fixed rfl (by decide +kernel), Or.inr (Or.inr rfl)⟩
    | answered raw =>
      rw [generateStrategy_answered consulted] at generated
      cases generated
      exact ⟨present_bounded words raw _, Or.inl ⟨raw, consulted, present_quoted words raw _⟩⟩

/-- A client that answers in two sentences. -/
def twoSentences : String → Option String := fun _ => some "Go.\nOn. "

theorem strategy_bounded_and_quoted_two :
    BoundedOutput false ⟨"Go", ["Go", "On"], true, none⟩ ∧
      Quoted asciiWords asciiRuntime twoSentences []
        ⟨"Go", ["Go", "On"], true, none⟩ :=
  (strategy_bounded_and_quoted asciiWords asciiRuntime twoSentences []).1 _ (by decide +kernel)

end Apcos.Guarantees.StrategyBounds

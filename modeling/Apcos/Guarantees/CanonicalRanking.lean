import Mathlib.Data.Prod.Lex
import Mathlib.Data.String.Basic
import Mathlib.Algebra.Order.Group.Unbundled.Basic
import Apcos.Lib.Traverse
import Apcos.Source.Cognition.ProactiveController

/-!
# Canonical ranking

core/behavior/suggestion_scorer.py. The sort key is a score, a pattern type and a key
text, compared in that order. Scores that are rational numbers make this a linear order,
so candidates that differ in it are ranked the same in whatever order they were detected.
-/
namespace Apcos.Guarantees.CanonicalRanking

open Apcos.Lib
open Apcos.Source.Python
open Apcos.Source.Cognition

variable (py : Runtime) (fp : Arithmetic)

/-- The candidates as `rank` collects them, before it sorts. -/
def candidates (patterns : List PatternResult) (context : Dict) :
    Except Exc (List ScoredSuggestion) := do
  let taskId ← extractTaskId py context
  patterns.mapM (scorePattern py fp taskId)

/-- The three levels of the sort key, without the sign of the score. -/
def triple (s : ScoredSuggestion) : PyFloat × String × String :=
  (s.score, s.pattern.patternType, s.key)

/-- By descending score, then by pattern type, then by key. -/
def Precedes (a b : ScoredSuggestion) : Prop :=
  b.score.lt a.score = true ∨ a.score = b.score ∧
    (a.pattern.patternType < b.pattern.patternType ∨
      a.pattern.patternType = b.pattern.patternType ∧ a.key < b.key)

/-- The score is a rational number. -/
def Rational (s : ScoredSuggestion) : Prop := ∃ q, s.score = .finite q

/-- Candidates with rational scores, no two with the same triple. -/
structure Rankable (patterns : List PatternResult) (context : Dict) : Prop where
  rational : ∀ scored, candidates py fp patterns context = .ok scored →
    ∀ s ∈ scored, Rational s
  distinct : ∀ scored, candidates py fp patterns context = .ok scored →
    scored.Pairwise fun a b => triple a ≠ triple b

/-! ## The order of the sort key -/

def scoreOf : PyFloat → Rat
  | .finite q => q
  | _ => 0

/-- The sort key as a value of a linear order. -/
def sortKey (s : ScoredSuggestion) : Lex (Rat × Lex (String × String)) :=
  toLex (-scoreOf s.score, toLex (s.pattern.patternType, s.key))

theorem ranksBefore_iff {a b : ScoredSuggestion} (first : Rational a) (second : Rational b) :
    ranksBefore a b ↔ sortKey a ≤ sortKey b := by
  obtain ⟨p, score⟩ := first
  obtain ⟨q, score'⟩ := second
  have same : (PyFloat.finite p).eq (.finite q) = true ↔ p = q := by
    simp [PyFloat.eq]
  have less : (PyFloat.finite q).lt (.finite p) = true ↔ q < p := by
    simp [PyFloat.lt]
  simp only [ranksBefore, sortKey, Prod.Lex.toLex_le_toLex, score, score', scoreOf, same, less,
    neg_lt_neg_iff, neg_inj]
  by_cases equal : p = q
  · rw [if_pos equal]
    by_cases type : a.pattern.patternType = b.pattern.patternType
    · simp [equal, type]
    · simp [equal, type]
  · simp [equal]

theorem precedes_of_sortKey {a b : ScoredSuggestion} (first : Rational a) (second : Rational b)
    (below : sortKey a ≤ sortKey b) (different : triple a ≠ triple b) : Precedes a b := by
  obtain ⟨p, score⟩ := first
  obtain ⟨q, score'⟩ := second
  simp only [sortKey, Prod.Lex.toLex_le_toLex, score, score', scoreOf, neg_lt_neg_iff,
    neg_inj] at below
  rcases below with higher | ⟨equal, lower⟩
  · exact Or.inl (by simp [score, score', PyFloat.lt, higher])
  · refine Or.inr ⟨by rw [score, score', equal], lower.imp_right fun tied => ⟨tied.1, ?_⟩⟩
    refine lt_of_le_of_ne tied.2 ?_
    intro key
    exact different (by simp [triple, score, score', equal, tied.1, key])

/-- Rational candidates are told apart by the sort key as by the triple. -/
theorem sortKey_eq_iff {a b : ScoredSuggestion} (first : Rational a) (second : Rational b) :
    sortKey a = sortKey b ↔ triple a = triple b := by
  obtain ⟨p, score⟩ := first
  obtain ⟨q, score'⟩ := second
  simp [sortKey, triple, score, score', scoreOf]

/-! ## Ranking -/

variable {py fp}

theorem rank_eq (patterns : List PatternResult) (context : Dict) :
    rank py fp patterns context =
      (candidates py fp patterns context >>= fun scored => .ok (scored.insertionSort ranksBefore)) := by
  unfold rank candidates
  cases extractTaskId py context <;> rfl

/-- Rearranged patterns give rearranged candidates. -/
theorem candidates_perm {patterns patterns' : List PatternResult} {context : Dict}
    {scored : List ScoredSuggestion} (perm : patterns.Perm patterns')
    (collected : candidates py fp patterns context = .ok scored) :
    ∃ scored', candidates py fp patterns' context = .ok scored' ∧ scored.Perm scored' := by
  obtain ⟨taskId, named, computed⟩ := bind_ok collected
  obtain ⟨scored', computed', arranged⟩ := mapM_perm perm computed
  exact ⟨scored', by rw [candidates, named, ok_bind, computed'], arranged⟩

theorem nodup_sortKey {patterns : List PatternResult} {context : Dict}
    {scored : List ScoredSuggestion} (rankable : Rankable py fp patterns context)
    (collected : candidates py fp patterns context = .ok scored) :
    (scored.map sortKey).Nodup := by
  have rational := rankable.rational scored collected
  refine List.pairwise_map.mpr ((rankable.distinct scored collected).imp_of_mem ?_)
  intro a b member also different same
  exact different ((sortKey_eq_iff (rational a member) (rational b also)).mp same)

/-- The ranking of the patterns in any other order. -/
theorem rank_of_perm {patterns patterns' : List PatternResult} {context : Dict}
    {ranked : List ScoredSuggestion} (rankable : Rankable py fp patterns context)
    (perm : patterns.Perm patterns') (ordered : rank py fp patterns context = .ok ranked) :
    rank py fp patterns' context = .ok ranked := by
  rw [rank_eq] at ordered ⊢
  obtain ⟨scored, collected, sorted⟩ := bind_ok ordered
  obtain ⟨scored', collected', arranged⟩ := candidates_perm perm collected
  have rational := rankable.rational scored collected
  have orders : ∀ a ∈ scored, ∀ b ∈ scored, ranksBefore a b ↔ sortKey a ≤ sortKey b :=
    fun a member b also => ranksBefore_iff (rational a member) (rational b also)
  have canonical := insertionSort_eq_of_perm arranged orders (nodup_sortKey rankable collected)
  rw [collected', ok_bind, ← canonical]
  exact sorted

theorem Rankable.perm {patterns patterns' : List PatternResult} {context : Dict}
    (rankable : Rankable py fp patterns context) (perm : patterns.Perm patterns') :
    Rankable py fp patterns' context where
  rational := by
    intro scored' collected' s member
    obtain ⟨scored, collected, arranged⟩ := candidates_perm perm.symm collected'
    exact rankable.rational scored collected s (arranged.mem_iff.mp member)
  distinct := by
    intro scored' collected'
    obtain ⟨scored, collected, arranged⟩ := candidates_perm perm.symm collected'
    have different : ∀ {a b : ScoredSuggestion}, triple a ≠ triple b → triple b ≠ triple a :=
      fun unequal same => unequal same.symm
    exact (arranged.pairwise_iff different).mpr (rankable.distinct scored collected)

/-- Two patterns, the less confident one detected first. -/
def twoPatterns : List PatternResult :=
  [⟨"missed_task", .finite (7 / 10), []⟩, ⟨"goal_deviation", .finite (8 / 10), []⟩]

theorem twoPatterns_rankable : Rankable asciiRuntime exact twoPatterns [] := by
  have collected : candidates asciiRuntime exact twoPatterns [] = .ok
      [⟨⟨"missed_task", .finite (7 / 10), []⟩, .finite (7 / 10 * 100 + 1),
          "missed_task|task:global|global"⟩,
        ⟨⟨"goal_deviation", .finite (8 / 10), []⟩, .finite (8 / 10 * 100 + 3),
          "goal_deviation|task:global|global"⟩] := rfl
  constructor
  · intro scored returned s member
    rw [collected] at returned
    cases returned
    rcases List.mem_pair.mp member with rfl | rfl
    · exact ⟨_, rfl⟩
    · exact ⟨_, rfl⟩
  · intro scored returned
    rw [collected] at returned
    cases returned
    simp [triple]

/-- Each pattern is detected at most once, in this order. -/
theorem detect_types {d : PatternDetector} {context : Dict} {patterns : List PatternResult}
    (detected : detect py fp d context = .ok patterns) :
    (patterns.map (·.patternType)).Sublist ["missed_task", "overloaded_day", "goal_deviation"] := by
  unfold detect at detected
  obtain ⟨missed, first, detected⟩ := bind_ok detected
  obtain ⟨overload, second, detected⟩ := bind_ok detected
  obtain ⟨deviation, third, same⟩ := bind_ok detected
  cases same
  have one : (missed.map (·.patternType)).Sublist ["missed_task"] := by
    unfold detectMissed at first
    obtain ⟨overdueTasks, -, first⟩ := bind_ok first
    split at first
    · obtain ⟨confidence, -, same⟩ := bind_ok first
      cases same
      exact List.Sublist.refl _
    · cases first
      exact List.nil_sublist _
  have two : (overload.map (·.patternType)).Sublist ["overloaded_day"] := by
    unfold detectOverload at second
    obtain ⟨scheduled, -, second⟩ := bind_ok second
    obtain ⟨capacity, -, second⟩ := bind_ok second
    dsimp only at second
    split at second
    · obtain ⟨confidence, -, same⟩ := bind_ok second
      cases same
      exact List.Sublist.refl _
    · cases second
      exact List.nil_sublist _
  have three : (deviation.map (·.patternType)).Sublist ["goal_deviation"] := by
    unfold detectDeviation at third
    obtain ⟨goalAlignment, -, third⟩ := bind_ok third
    split at third
    · cases third
      exact List.Sublist.refl _
    · cases third
      exact List.nil_sublist _
  rw [List.map_append, List.map_append]
  exact (one.append two).append three

theorem scored_pattern {taskId : String} {p : PatternResult} {s : ScoredSuggestion}
    (computed : scorePattern py fp taskId p = .ok s) : s.pattern = p := by
  unfold scorePattern at computed
  obtain ⟨key, -, same⟩ := bind_ok computed
  cases same
  rfl

/-- What a detector finds is told apart by its types, so its order does not matter. -/
theorem detected_rankable {d : PatternDetector} {context : Dict} {patterns : List PatternResult}
    (detected : detect py fp d context = .ok patterns)
    (rational : ∀ scored, candidates py fp patterns context = .ok scored →
      ∀ s ∈ scored, Rational s) : Rankable py fp patterns context where
  rational := rational
  distinct := by
    intro scored collected
    obtain ⟨taskId, -, computed⟩ := bind_ok collected
    have types : scored.map (·.pattern.patternType) = patterns.map (·.patternType) := by
      have pointwise := mapM_ok_iff.mp computed
      clear computed collected rational detected
      induction pointwise with
      | nil => rfl
      | cons here later ih => rw [List.map_cons, List.map_cons, scored_pattern here, ih]
    have nodup : (scored.map (·.pattern.patternType)).Nodup := by
      rw [types]
      exact (detect_types detected).nodup (by decide)
    refine (List.pairwise_map.mp nodup).imp ?_
    intro a b different same
    exact different (congrArg (fun key => key.2.1) same)

end Apcos.Guarantees.CanonicalRanking

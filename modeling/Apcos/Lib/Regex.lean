import Mathlib.Data.List.Forall2
import Mathlib.Tactic.Common

/-!
# Ordered pattern matching

Regular expressions with the ordered choice of a backtracking matcher. A
pattern denotes the list of its matches from a position, in the order in which
the matcher tries them; the first one is its answer. Repetition is over single
elements of a class, which is all that a pattern without nested quantifiers
needs, so the denotation is structural and total.
-/
namespace Apcos.Lib.Regex

variable {α : Type}

inductive Pattern (α : Type) where
  | one (p : α → Bool)
  /-- Between `least` and `most` elements of a class, many first unless `reluctant`. -/
  | run (p : α → Bool) (least : Nat) (most : Option Nat) (reluctant : Bool)
  | seq (first second : Pattern α)
  | either (first second : Pattern α)
  | optional (body : Pattern α)
  | group (name : String) (body : Pattern α)
  /-- A condition on the rest of the input. -/
  | look (p : List α → Bool)

/-- A position in the input and the groups captured so far. -/
structure Found (α : Type) where
  captures : List (String × List α)
  rest : List α

def Found.group (found : Found α) (name : String) : Option (List α) := found.captures.lookup name

/-- The numbers of elements a run may take, in the order of trial. -/
def runLengths (p : α → Bool) (least : Nat) (most : Option Nat) (reluctant : Bool)
    (input : List α) : List Nat :=
  let available := (input.takeWhile p).length
  let longest := match most with
    | none => available
    | some bound => min available bound
  let ascending := (List.range (longest + 1 - least)).map (· + least)
  if reluctant then ascending else ascending.reverse

def search : Pattern α → Found α → List (Found α)
  | .one p, found =>
    match found.rest with
    | [] => []
    | c :: rest => if p c then [{ found with rest }] else []
  | .run p least most reluctant, found =>
    (runLengths p least most reluctant found.rest).map fun n =>
      { found with rest := found.rest.drop n }
  | .seq first second, found => (search first found).flatMap (search second)
  | .either first second, found => search first found ++ search second found
  | .optional body, found => search body found ++ [found]
  | .group name body, found =>
    (search body found).map fun after =>
      { after with captures :=
          (name, found.rest.take (found.rest.length - after.rest.length)) :: after.captures }
  | .look p, found => if p found.rest then [found] else []

/-- The match the backtracking search returns, anchored at the start. -/
def firstMatch (pattern : Pattern α) (input : List α) : Option (Found α) :=
  (search pattern ⟨[], input⟩).head?

/-! ## The matches of each form -/

theorem mem_runLengths {p : α → Bool} {least : Nat} {most : Option Nat} {reluctant : Bool}
    {input : List α} {n : Nat} :
    n ∈ runLengths p least most reluctant input ↔
      least ≤ n ∧ n ≤ (input.takeWhile p).length ∧ ∀ bound, most = some bound → n ≤ bound := by
  have longest (limit : Nat) :
      n ∈ (List.range (limit + 1 - least)).map (· + least) ↔ least ≤ n ∧ n ≤ limit := by
    rw [List.mem_map]
    constructor
    · intro ⟨k, within, same⟩
      rw [List.mem_range] at within
      omega
    · intro bounds
      exact ⟨n - least, by rw [List.mem_range]; omega, by omega⟩
  unfold runLengths
  cases most with
  | none => cases reluctant <;> simp [longest]
  | some bound =>
    cases reluctant <;>
      simp only [Bool.false_eq_true, if_false, if_true, List.mem_reverse, longest, Nat.le_min,
        Option.some.injEq, forall_eq']

theorem le_takeWhile_iff {p : α → Bool} {input : List α} {n : Nat} :
    n ≤ (input.takeWhile p).length ↔ n ≤ input.length ∧ ∀ c ∈ input.take n, p c = true := by
  induction input generalizing n with
  | nil => simp
  | cons c rest ih =>
    cases n with
    | zero => simp
    | succ n =>
      cases kept : p c with
      | true => simp [kept, ih]
      | false => simp [kept]

theorem mem_search_one {p : α → Bool} {found after : Found α} :
    after ∈ search (.one p) found ↔ ∃ c rest, found.rest = c :: rest ∧ p c = true ∧
      after = ⟨found.captures, rest⟩ := by
  simp only [search]
  cases found.rest with
  | nil => simp
  | cons c rest =>
    cases kept : p c with
    | true => simp [kept]
    | false => simp [kept]

theorem mem_search_run {p : α → Bool} {least : Nat} {most : Option Nat} {reluctant : Bool}
    {found after : Found α} :
    after ∈ search (.run p least most reluctant) found ↔ ∃ taken rest,
      found.rest = taken ++ rest ∧ (∀ c ∈ taken, p c = true) ∧ least ≤ taken.length ∧
      (∀ bound, most = some bound → taken.length ≤ bound) ∧ after = ⟨found.captures, rest⟩ := by
  rw [search, List.mem_map]
  constructor
  · intro ⟨n, tried, same⟩
    obtain ⟨enough, available, bounded⟩ := mem_runLengths.mp tried
    obtain ⟨inside, kept⟩ := le_takeWhile_iff.mp available
    refine ⟨found.rest.take n, found.rest.drop n, (List.take_append_drop n found.rest).symm, kept,
      ?_, ?_, same.symm⟩
    · rw [List.length_take]
      omega
    · intro bound limit
      rw [List.length_take]
      have small := bounded bound limit
      omega
  · intro ⟨taken, rest, split, kept, enough, bounded, same⟩
    refine ⟨taken.length, mem_runLengths.mpr ⟨enough, le_takeWhile_iff.mpr ⟨?_, ?_⟩, bounded⟩, ?_⟩
    · simp [split]
    · rw [split, List.take_left]
      exact kept
    · rw [same, split, List.drop_left]

theorem mem_search_seq {first second : Pattern α} {found after : Found α} :
    after ∈ search (.seq first second) found ↔
      ∃ mid ∈ search first found, after ∈ search second mid := by
  rw [search, List.mem_flatMap]

theorem mem_search_either {first second : Pattern α} {found after : Found α} :
    after ∈ search (.either first second) found ↔
      after ∈ search first found ∨ after ∈ search second found := by
  rw [search, List.mem_append]

theorem mem_search_optional {body : Pattern α} {found after : Found α} :
    after ∈ search (.optional body) found ↔ after ∈ search body found ∨ after = found := by
  rw [search, List.mem_append, List.mem_singleton]

theorem mem_search_look {p : List α → Bool} {found after : Found α} :
    after ∈ search (.look p) found ↔ p found.rest = true ∧ after = found := by
  rw [search]
  cases p found.rest <;> simp

/-- A match consumes a part of the input from its start. -/
theorem search_consumes {pattern : Pattern α} {found after : Found α}
    (matched : after ∈ search pattern found) : ∃ taken, found.rest = taken ++ after.rest := by
  induction pattern generalizing found after with
  | one p =>
    obtain ⟨c, rest, split, -, rfl⟩ := mem_search_one.mp matched
    exact ⟨[c], split⟩
  | run p least most reluctant =>
    obtain ⟨taken, rest, split, -, -, -, rfl⟩ := mem_search_run.mp matched
    exact ⟨taken, split⟩
  | seq first second ih ih' =>
    obtain ⟨mid, start, finish⟩ := mem_search_seq.mp matched
    obtain ⟨taken, split⟩ := ih start
    obtain ⟨taken', split'⟩ := ih' finish
    exact ⟨taken ++ taken', by rw [split, split', List.append_assoc]⟩
  | either first second ih ih' => exact (mem_search_either.mp matched).elim ih ih'
  | optional body ih =>
    rcases mem_search_optional.mp matched with inner | rfl
    · exact ih inner
    · exact ⟨[], rfl⟩
  | group name body ih =>
    rw [search, List.mem_map] at matched
    obtain ⟨inner, within, same⟩ := matched
    obtain ⟨taken, split⟩ := ih within
    exact ⟨taken, by rw [split, ← same]⟩
  | look p =>
    obtain ⟨-, rfl⟩ := mem_search_look.mp matched
    exact ⟨[], rfl⟩

/-- A group captures what its body consumed. -/
theorem mem_search_group {name : String} {body : Pattern α} {found after : Found α} :
    after ∈ search (.group name body) found ↔ ∃ taken inner,
      found.rest = taken ++ inner.rest ∧ inner ∈ search body found ∧
      after = ⟨(name, taken) :: inner.captures, inner.rest⟩ := by
  have captured {taken : List α} {inner : Found α} (split : found.rest = taken ++ inner.rest) :
      found.rest.take (found.rest.length - inner.rest.length) = taken := by
    rw [split, List.length_append, Nat.add_sub_cancel, List.take_left]
  rw [search, List.mem_map]
  constructor
  · intro ⟨inner, within, same⟩
    obtain ⟨taken, split⟩ := search_consumes within
    rw [captured split] at same
    exact ⟨taken, inner, split, within, same.symm⟩
  · intro ⟨taken, inner, split, within, same⟩
    refine ⟨inner, within, ?_⟩
    rw [captured split]
    exact same.symm

theorem firstMatch_eq_none {pattern : Pattern α} {input : List α}
    (never : ∀ found, found ∉ search pattern ⟨[], input⟩) : firstMatch pattern input = none := by
  rw [firstMatch, List.eq_nil_iff_forall_not_mem.mpr never]
  rfl

/-! ## The first match -/

/-- The match that is tried first. -/
def Answers (pattern : Pattern α) (found after : Found α) : Prop :=
  (search pattern found).head? = some after

/-- A search all of whose matches agree answers with that match. -/
theorem answers_of_unique {pattern : Pattern α} {found after : Found α}
    (matched : after ∈ search pattern found)
    (unique : ∀ other ∈ search pattern found, other = after) : Answers pattern found after := by
  unfold Answers
  cases all : search pattern found with
  | nil =>
    rw [all] at matched
    cases matched
  | cons other others =>
    rw [List.head?_cons, unique other (by rw [all]; exact List.mem_cons_self)]

/-- A greedy run takes all it can. -/
theorem answers_run {p : α → Bool} {least : Nat} {most : Option Nat}
    {captures : List (String × List α)} {taken rest : List α} (kept : ∀ c ∈ taken, p c = true)
    (ends : ∀ c ∈ rest.head?, p c = false) (enough : least ≤ taken.length)
    (bounded : ∀ bound, most = some bound → taken.length ≤ bound) :
    Answers (.run p least most false) ⟨captures, taken ++ rest⟩ ⟨captures, rest⟩ := by
  have whole : (taken ++ rest).takeWhile p = taken := by
    rw [List.takeWhile_append_of_pos kept]
    cases rest with
    | nil => simp
    | cons c others =>
      have other := ends c rfl
      rw [List.takeWhile_cons_of_neg (by simp [other]), List.append_nil]
  have tried : taken.length + 1 - least = (taken.length - least) + 1 := by omega
  have last : taken.length - least + least = taken.length := by omega
  cases most with
  | none =>
    simp only [Answers, search, runLengths, whole, tried, List.range_succ]
    simp [last]
  | some bound =>
    simp only [Answers, search, runLengths, whole, Nat.min_eq_left (bounded bound rfl), tried,
      List.range_succ]
    simp [last]

theorem answers_optional {body : Pattern α} {found after : Found α}
    (answered : Answers body found after) : Answers (.optional body) found after := by
  unfold Answers at answered ⊢
  rw [search, List.head?_append, answered]
  rfl

theorem answers_group {name : String} {body : Pattern α} {found inner : Found α} {taken : List α}
    (answered : Answers body found inner) (split : found.rest = taken ++ inner.rest) :
    Answers (.group name body) found ⟨(name, taken) :: inner.captures, inner.rest⟩ := by
  unfold Answers at answered ⊢
  rw [search, List.head?_map, answered, Option.map_some, split, List.length_append,
    Nat.add_sub_cancel, List.take_left]

/-- Patterns in a row. -/
def chain : List (Pattern α) → Pattern α
  | [] => .look fun _ => true
  | [pattern] => pattern
  | pattern :: rest => .seq pattern (chain rest)

theorem search_chain_cons (pattern : Pattern α) (rest : List (Pattern α)) (found : Found α) :
    search (chain (pattern :: rest)) found =
      (search pattern found).flatMap (search (chain rest)) := by
  cases rest with
  | nil =>
    have none : search (chain ([] : List (Pattern α))) = fun after => [after] := rfl
    rw [none, List.flatMap_singleton']
    rfl
  | cons second others => rfl

theorem mem_search_chain_cons {pattern : Pattern α} {rest : List (Pattern α)}
    {found after : Found α} :
    after ∈ search (chain (pattern :: rest)) found ↔
      ∃ mid ∈ search pattern found, after ∈ search (chain rest) mid := by
  rw [search_chain_cons, List.mem_flatMap]

/-- The first choice is the answer where what comes after it matches. -/
theorem answers_chain {pattern : Pattern α} {rest : List (Pattern α)} {found mid after : Found α}
    (first : Answers pattern found mid) (later : Answers (chain rest) mid after) :
    Answers (chain (pattern :: rest)) found after := by
  unfold Answers at first later ⊢
  rw [search_chain_cons]
  cases all : search pattern found with
  | nil =>
    rw [all] at first
    cases first
  | cons choice others =>
    rw [all] at first
    cases first
    rw [List.flatMap_cons, List.head?_append, later]
    rfl

/-- An optional part is passed over where no choice of it lets the rest match. -/
theorem answers_skip {body : Pattern α} {rest : List (Pattern α)} {found after : Found α}
    (never : ∀ mid ∈ search body found, ∀ other, other ∉ search (chain rest) mid)
    (later : Answers (chain rest) found after) :
    Answers (chain (.optional body :: rest)) found after := by
  have nothing : (search body found).flatMap (search (chain rest)) = [] := by
    rw [List.flatMap_eq_nil_iff]
    exact fun mid member => List.eq_nil_iff_forall_not_mem.mpr (never mid member)
  unfold Answers at later ⊢
  rw [search_chain_cons, search, List.flatMap_append, nothing, List.nil_append,
    List.flatMap_singleton]
  exact later

theorem answers_chain_nil (found : Found α) : Answers (chain []) found found := rfl

theorem mem_search_chain_nil {found after : Found α} :
    after ∈ search (chain []) found ↔ after = found :=
  List.mem_singleton

/-- A row of single elements takes one element of each class. -/
theorem mem_search_chain_one {classes : List (α → Bool)} {found after : Found α} :
    after ∈ search (chain (classes.map .one)) found ↔ ∃ taken rest,
      found.rest = taken ++ rest ∧ List.Forall₂ (fun p c => p c = true) classes taken ∧
      after = ⟨found.captures, rest⟩ := by
  induction classes generalizing found with
  | nil =>
    rw [List.map_nil, mem_search_chain_nil]
    constructor
    · rintro rfl
      exact ⟨[], after.rest, rfl, .nil, rfl⟩
    · intro ⟨taken, rest, split, nothing, same⟩
      cases nothing
      rw [same, ← List.nil_append rest, ← split]
  | cons p classes ih =>
    rw [List.map_cons, mem_search_chain_cons]
    constructor
    · intro ⟨mid, first, later⟩
      obtain ⟨c, rest, split, fits, rfl⟩ := mem_search_one.mp first
      obtain ⟨taken, rest', split', fit, same⟩ := ih.mp later
      dsimp only at split'
      exact ⟨c :: taken, rest', by rw [split, split', List.cons_append], .cons fits fit, same⟩
    · intro ⟨taken, rest, split, fit, same⟩
      cases fit with
      | cons fits others =>
        exact ⟨_, mem_search_one.mpr ⟨_, _, split, fits, rfl⟩, ih.mpr ⟨_, rest, rfl, others, same⟩⟩

end Apcos.Lib.Regex

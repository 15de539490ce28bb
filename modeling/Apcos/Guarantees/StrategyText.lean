import Apcos.Guarantees.AnswerPassages

/-!
# Presented strategy text

core/cognition/reasoning_engine.py. The patterns are checked on the text as the client
answered it, and not on what is presented: its white space collapsed, cut at a length
and split into sentences. Of which answers a pattern still matches something presented:
those with two words of a pattern on different lines of a passage, which a dot does not
cross, and those cut inside a word, just behind a forbidden word or phrase.
-/
namespace Apcos.Guarantees.StrategyText

open Apcos.Lib.Search
open Apcos.Source.Python
open Apcos.Source.Cognition
open Apcos.Source.Cognition.SafetyPattern (wholeWord anyOf acrossRx acrossRx_blind)
open Apcos.Guarantees.AnswerCuts
open Apcos.Guarantees.AnswerPassages

/-- No pattern matches the text. -/
def Clean (words : WordClass) (text : List Char) : Prop :=
  ∀ p ∈ safetyPatterns, p.matchesText words text = false

/-- What is presented as safe has no match of a safety pattern. -/
def PresentsCleanly (words : WordClass) (py : Runtime) (client : String → Option String)
    (context : Dict) : Prop :=
  ∀ out, generateStrategy words py client context = .ok out → out.safeToPresent = true →
    Clean words out.summary.toList ∧ ∀ step ∈ out.strategySteps, Clean words step.toList

/-- The answer passes both checks. -/
def Passes (words : WordClass) (raw : List Char) : Prop :=
  hasMutationCommand words raw = false ∧ findUnsafeReason words raw = none

/-- A match of a pattern ends where the text ends. -/
def EndsIn (words : WordClass) (p : SafetyPattern) (text : List Char) : Prop :=
  ∃ left stretch, text = left ++ stretch ∧ accepts words.word p.rx left stretch [] = true

theorem matchesText_iff {words : WordClass} {p : SafetyPattern} {text : List Char} :
    p.matchesText words text = true ↔ ∃ left stretch right, text = left ++ stretch ++ right ∧
      accepts words.word p.rx left stretch right = true := found_iff

theorem Passes.clean {words : WordClass} {raw : List Char} (passes : Passes words raw) :
    Clean words raw := by
  obtain ⟨noCommand, noReason⟩ := passes
  intro p member
  rw [findUnsafeReason, Option.map_eq_none_iff, List.find?_eq_none] at noReason
  rw [hasMutationCommand, List.any_eq_false] at noCommand
  rcases List.mem_append.mp member with unsafePattern | command
  · simpa using noReason p unsafePattern
  · simpa using noCommand p command

/-! ## Back to the answer -/

/-- A match in a collapsed text is one in the text, and ends at its end only if it did. -/
theorem collapse_match {words : WordClass} {dotted : Prop} {free : Char → Bool} {rx : Rx Char}
    (blind : Blind isSpace dotted free rx) {text left stretch right : List Char}
    (allFree : dotted → ∀ c ∈ text, free c = true)
    (shape : collapse text = left ++ stretch ++ right)
    (accepted : accepts words.word rx left stretch right = true) :
    ∃ left' stretch' right', text = left' ++ stretch' ++ right' ∧
      accepts words.word rx left' stretch' right' = true ∧ (right ≠ [] → right' ≠ []) := by
  obtain ⟨opening, core, closing, split, opens, closes, _, spaced⟩ := collapse_spaced text
  rw [shape] at spaced
  obtain ⟨front, back, splitCore, spacedFront, spacedRight⟩ := spaced.split _ _
  obtain ⟨before, middle, splitFront, spacedLeft, spacedStretch⟩ := spacedFront.split _ _
  subst splitFront splitCore
  refine ⟨opening ++ before, middle, back ++ closing, by rw [split]; simp, ?_, ?_⟩
  · refine accepts_original blind words.space (by decide) spacedStretch ?_ ?_ ?_ accepted
    · intro allowed c inside
      apply allFree allowed
      rw [split]
      simp [inside]
    · rw [lastWord_append, spacedLeft.lastWord_eq words.space (by decide)]
      split
      next empty =>
        rw [lastWord_blanks words.space opens, spacedLeft.eq_nil_iff.mp empty]
        rfl
      next => rfl
    · rw [headWord_append, spacedRight.headWord_eq words.space (by decide)]
      split
      next empty =>
        rw [spacedRight.eq_nil_iff.mp empty, ← List.append_nil closing,
          blanks_headWord closes rfl]
        rfl
      next => rfl
  · intro more empty
    rw [List.append_eq_nil_iff] at empty
    exact more (spacedRight.eq_nil_iff.mp empty.1)

/-- A match in a text that begins and ends at the edge of a word is one in the collapsed text. -/
theorem match_collapse {words : WordClass} {dotted : Prop} {free : Char → Bool} {rx : Rx Char}
    (blind : Blind isSpace dotted free rx) (gapFree : dotted → free ' ' = true)
    {text left stretch right : List Char} (ends : VisibleEnds text)
    (shape : text = left ++ stretch ++ right)
    (opens : Apart isSpace left (stretch ++ right)) (closes : Apart isSpace (left ++ stretch) right)
    (accepted : accepts words.word rx left stretch right = true) :
    ∃ left' stretch' right', collapse text = left' ++ stretch' ++ right' ∧
      accepts words.word rx left' stretch' right' = true := by
  have spaced := ends.spaced
  have blank : isSpace ' ' = true := by decide
  generalize collapse text = collapsed at spaced
  subst shape
  obtain ⟨front, after, rfl, spacedFront, spacedRight⟩ := spaced.split_original closes
  have inner : Apart isSpace left stretch := by
    by_cases empty : stretch = []
    · subst empty
      exact Or.inr fun c first => absurd first (by simp)
    · refine opens.imp_right fun shown c first => shown c ?_
      rw [List.head?_append_of_ne_nil _ empty]
      exact first
  obtain ⟨before, middle, rfl, spacedLeft, spacedStretch⟩ := spacedFront.split_original inner
  refine ⟨before, middle, after, rfl, ?_⟩
  exact accepts_spaced blind words.space blank gapFree spacedStretch
    (spacedLeft.lastWord_eq words.space blank).symm (spacedRight.headWord_eq words.space blank).symm
    accepted

/-! ## Words on different lines -/

/-- One word and on a later line another one. -/
def JoinsLines (words : WordClass) (lead : String) (others : List String) (text : List Char) :
    Prop :=
  ∃ left first between second right, text = left ++ first ++ between ++ second ++ right ∧
    '\n' ∈ between ∧
    accepts words.word (wholeWord lead).rx left first (between ++ second ++ right) = true ∧
    ∃ other ∈ others,
      accepts words.word (wholeWord other).rx (left ++ first ++ between) second right = true

theorem accepts_anyOf_iff {words : WordClass} {first : String} {rest : List String}
    {left stretch right : List Char} :
    accepts words.word (anyOf first rest) left stretch right = true ↔
      ∃ other ∈ first :: rest, accepts words.word (spell other.toList) left stretch right = true := by
  induction rest generalizing first with
  | nil => simp [anyOf]
  | cons second rest ih =>
    rw [anyOf, accepts, Bool.or_eq_true, ih, List.exists_mem_cons_iff (a := first)]

theorem accepts_anyWord_iff {words : WordClass} {first : String} {rest : List String}
    {left stretch right : List Char} :
    accepts words.word (.seq .boundary (.seq (anyOf first rest) .boundary)) left stretch right =
        true ↔
      ∃ other ∈ first :: rest,
        accepts words.word (wholeWord other).rx left stretch right = true := by
  simp only [accepts_seq_iff, accepts_anyOf_iff]
  constructor
  · rintro ⟨a, b, split, bound, c, d, split', ⟨other, member, spelled⟩, ends⟩
    exact ⟨other, member, accepts_seq_iff.mpr
      ⟨a, b, split, bound, accepts_seq_iff.mpr ⟨c, d, split', spelled, ends⟩⟩⟩
  · rintro ⟨other, member, accepted⟩
    obtain ⟨a, b, split, bound, more⟩ := accepts_seq_iff.mp accepted
    obtain ⟨c, d, split', spelled, ends⟩ := accepts_seq_iff.mp more
    exact ⟨a, b, split, bound, c, d, split', ⟨other, member, spelled⟩, ends⟩

/-- What a pattern across other text matches: the first word, the text between, another word. -/
theorem accepts_acrossRx_iff {words : WordClass} {dot : Char → Bool} {lead first : String}
    {rest : List String} {left stretch right : List Char} :
    accepts words.word (acrossRx dot lead first rest) left stretch right = true ↔
      ∃ opening between closing, stretch = opening ++ between ++ closing ∧
        between.all dot = true ∧
        accepts words.word (wholeWord lead).rx left opening (between ++ closing ++ right) = true ∧
        ∃ other ∈ first :: rest,
          accepts words.word (wholeWord other).rx (left ++ opening ++ between) closing right =
            true := by
  have regrouped : accepts words.word (acrossRx dot lead first rest) left stretch right = true ↔
      accepts words.word (.seq (wholeWord lead).rx (.seq (.many dot)
        (.seq .boundary (.seq (anyOf first rest) .boundary)))) left stretch right = true :=
    (accepts_seq_congr fun _ _ _ => accepts_seq_assoc).trans accepts_seq_assoc
  rw [regrouped]
  constructor
  · intro accepted
    obtain ⟨opening, _, rfl, lead, more⟩ := accepts_seq_iff.mp accepted
    obtain ⟨between, closing, rfl, dots, others⟩ := accepts_seq_iff.mp more
    exact ⟨opening, between, closing, (List.append_assoc _ _ _).symm, dots, lead,
      accepts_anyWord_iff.mp others⟩
  · rintro ⟨opening, between, closing, rfl, dots, lead, others⟩
    exact accepts_seq_iff.mpr ⟨opening, between ++ closing, List.append_assoc _ _ _, lead,
      accepts_seq_iff.mpr ⟨between, closing, rfl, dots, accepts_anyWord_iff.mpr others⟩⟩

/-- A whole word begins and ends at the edge of a word. -/
theorem wholeWord_edges {words : WordClass} {lead : String} {left stretch right : List Char}
    (accepted : accepts words.word (wholeWord lead).rx left stretch right = true) :
    Apart isSpace left (stretch ++ right) ∧ Apart isSpace (left ++ stretch) right := by
  obtain ⟨start, rest, split, opens, more⟩ := accepts_seq_iff.mp accepted
  obtain ⟨spelled, ending, split', word, closes⟩ := accepts_seq_iff.mp more
  replace closes : accepts words.word .boundary (left ++ start ++ spelled) ending right = true := closes
  simp only [accepts, Bool.and_eq_true, List.isEmpty_iff, bne_iff_ne] at opens closes
  obtain ⟨rfl, opens⟩ := opens
  obtain ⟨rfl, closes⟩ := closes
  subst split split'
  simp only [List.append_nil] at opens closes ⊢
  exact ⟨apart_of_boundary words.space opens, apart_of_boundary words.space closes⟩

/-- Two words on different lines come to stand on one. -/
theorem matches_of_joined {words : WordClass} {lead first : String} {rest : List String}
    (solid : Solid lead) (firstSolid : Solid first) (others : ∀ word ∈ rest, Solid word)
    {text : List Char} (ends : VisibleEnds text)
    (joins : JoinsLines words lead (first :: rest) text) :
    found words.word (acrossRx notNewline lead first rest) (collapse text) = true := by
  obtain ⟨left, opening, between, closing, right, split, -, leads, follows⟩ := joins
  obtain ⟨other, member, closes⟩ := follows
  have accepted : accepts words.word (acrossRx (fun _ => true) lead first rest) left
      (opening ++ between ++ closing) right = true :=
    accepts_acrossRx_iff.mpr ⟨opening, between, closing, rfl, by simp, leads, other, member, closes⟩
  have opensApart := (wholeWord_edges leads).1
  have closesApart := (wholeWord_edges closes).2
  simp only [List.append_assoc] at split opensApart closesApart accepted
  have blind : Blind isSpace True (fun _ => true) (acrossRx (fun _ => true) lead first rest) :=
    acrossRx_blind trivial solid firstSolid others
  obtain ⟨left', _, right', whole, accepted⟩ :=
    match_collapse blind (fun _ => rfl) ends (by simpa using split) (by simpa using opensApart)
      (by simpa using closesApart) accepted
  obtain ⟨opening, between, closing, rfl, -, leads, follows⟩ := accepts_acrossRx_iff.mp accepted
  refine found_iff.mpr ⟨left', _, right', whole, accepts_acrossRx_iff.mpr
    ⟨opening, between, closing, rfl, ?_, leads, follows⟩⟩
  rw [List.all_eq_true]
  intro c inside
  have member : c ∈ collapse text := by
    rw [whole]
    simp [inside]
  exact collapse_plain member

/-- A match in the collapsed text is one in the text, or joins two of its lines. -/
theorem joined_or_matches {words : WordClass} {lead first : String} {rest : List String}
    (solid : Solid lead) (firstSolid : Solid first) (others : ∀ word ∈ rest, Solid word)
    {text left stretch right : List Char} (shape : collapse text = left ++ stretch ++ right)
    (accepted : accepts words.word (acrossRx notNewline lead first rest) left stretch right = true) :
    JoinsLines words lead (first :: rest) text ∨ ∃ left' stretch' right',
      text = left' ++ stretch' ++ right' ∧
        accepts words.word (acrossRx notNewline lead first rest) left' stretch' right' = true := by
  obtain ⟨opening, between, closing, rfl, -, leads, follows⟩ := accepts_acrossRx_iff.mp accepted
  have anything : accepts words.word (acrossRx (fun _ => true) lead first rest) left
      (opening ++ between ++ closing) right = true :=
    accepts_acrossRx_iff.mpr ⟨opening, between, closing, rfl, by simp, leads, follows⟩
  have blind : Blind isSpace True (fun _ => true) (acrossRx (fun _ => true) lead first rest) :=
    acrossRx_blind trivial solid firstSolid others
  obtain ⟨left', _, right', split, accepted, -⟩ :=
    collapse_match blind (fun _ _ _ => rfl) shape anything
  obtain ⟨opening, between, closing, rfl, -, leads, follows⟩ := accepts_acrossRx_iff.mp accepted
  by_cases line : '\n' ∈ between
  · refine Or.inl ⟨left', opening, between, closing, right', ?_, line, leads, follows⟩
    rw [split]
    simp
  · refine Or.inr ⟨left', _, right', split, accepts_acrossRx_iff.mpr
      ⟨opening, between, closing, rfl, ?_, leads, follows⟩⟩
    rw [List.all_eq_true]
    intro c inside
    rw [notNewline, bne_iff_ne]
    rintro rfl
    exact line inside

/-! ## What an answer exposes -/

/-- An answer that passes the checks and of which a pattern matches something presented: two
words of a pattern stand on different lines of a passage, or a passage that is cut inside a
word ends in a forbidden word or phrase. -/
def Exposed (words : WordClass) (raw : List Char) (low : Bool) : Prop :=
  Passes words raw ∧ ∃ passage ∈ passages raw low,
    JoinsLines words "archive" ["task", "tasks", "all", "everything"] passage ∨
      JoinsLines words "threshold" ["zero"] passage ∨
      (cutShort words raw low = true ∧ ∃ p ∈ safetyPatterns, EndsIn words p passage)

/-- A match in a passage is one in the answer, unless it ends at a cut inside a word. -/
theorem passage_match {words : WordClass} {p : SafetyPattern} {raw passage left stretch
    right : List Char} {low : Bool} (passes : Passes words raw) (known : p ∈ safetyPatterns)
    (member : passage ∈ passages raw low) (shape : passage = left ++ stretch ++ right)
    (accepted : accepts words.word p.rx left stretch right = true) :
    cutShort words raw low = true ∧ EndsIn words p passage := by
  obtain ⟨-, before, after, split, opens, closes⟩ := mem_passages words member
  by_cases inside : right = [] ∧ headWord words.word after = true
  · obtain ⟨rfl, goesOn⟩ := inside
    exact ⟨closes goesOn, left, stretch, by rw [shape, List.append_nil], accepted⟩
  · exfalso
    have inAnswer : accepts words.word p.rx (before ++ left) stretch (right ++ after) = true := by
      refine accepts_surroundings ?_ ?_ accepted
      · rw [lastWord_append]
        split
        next empty =>
          rw [empty, opens]
          rfl
        next => rfl
      · rw [headWord_append]
        split
        next empty =>
          have outside : headWord words.word after = false := by simpa [empty] using inside
          rw [empty, outside]
          rfl
        next => rfl
    have found : p.matchesText words raw = true :=
      matchesText_iff.mpr ⟨before ++ left, stretch, right ++ after, by rw [split, shape]; simp, inAnswer⟩
    rw [passes.clean p known] at found
    cases found

/-- A match in a presented sentence exposes the answer. -/
theorem exposed_of_match {words : WordClass} {p : SafetyPattern} {raw passage left stretch
    right : List Char} {low : Bool} (passes : Passes words raw) (known : p ∈ safetyPatterns)
    (member : passage ∈ passages raw low) (shape : collapse passage = left ++ stretch ++ right)
    (accepted : accepts words.word p.rx left stretch right = true) : Exposed words raw low := by
  refine ⟨passes, passage, member, ?_⟩
  have cut {q : SafetyPattern} (known : q ∈ safetyPatterns) {left stretch right : List Char}
      (shape : passage = left ++ stretch ++ right)
      (accepted : accepts words.word q.rx left stretch right = true) :
      cutShort words raw low = true ∧ ∃ p ∈ safetyPatterns, EndsIn words p passage := by
    obtain ⟨short, ends⟩ := passage_match passes known member shape accepted
    exact ⟨short, q, known, ends⟩
  rcases safetyPattern_blind known with blind | rfl | rfl | rfl
  · obtain ⟨_, _, _, split, accepted, -⟩ := collapse_match blind False.elim shape accepted
    exact Or.inr (Or.inr (cut known split accepted))
  · rcases joined_or_matches (by decide) (by decide) (by decide) shape accepted with
      joins | ⟨_, _, _, split, accepted⟩
    · exact Or.inl joins
    · exact Or.inr (Or.inr (cut known split accepted))
  · rcases joined_or_matches (by decide) (by decide) (by decide) shape accepted with
      joins | ⟨_, _, _, split, accepted⟩
    · -- The second word alone is a pattern.
      obtain ⟨left, opening, between, closing, right, split, -, -, other, same, accepted⟩ := joins
      rw [List.mem_singleton.mp same] at accepted
      have known : wholeWord "database" ∈ safetyPatterns := by
        simp [safetyPatterns, unsafePatterns]
      exact Or.inr (Or.inr (cut known split accepted))
    · exact Or.inr (Or.inr (cut known split accepted))
  · rcases joined_or_matches (by decide) (by decide) (by decide) shape accepted with
      joins | ⟨_, _, _, split, accepted⟩
    · exact Or.inr (Or.inl joins)
    · exact Or.inr (Or.inr (cut known split accepted))

/-- What an answer exposes is presented. -/
theorem match_of_exposed {words : WordClass} {raw : List Char} {low : Bool}
    (exposed : Exposed words raw low) :
    ∃ sentence ∈ sentences raw low, ∃ p ∈ safetyPatterns, p.matchesText words sentence = true := by
  obtain ⟨-, passage, member, matched⟩ := exposed
  obtain ⟨ends, -⟩ := mem_passages words member
  refine ⟨collapse passage, by rw [sentences_eq]; exact List.mem_map_of_mem member, ?_⟩
  rcases matched with archive | threshold | ⟨-, p, known, left, stretch, shape, accepted⟩
  · exact ⟨archiveAcross, by simp [safetyPatterns, unsafePatterns],
      matches_of_joined (by decide) (by decide) (by decide) ends archive⟩
  · exact ⟨thresholdAcross, by simp [safetyPatterns, unsafePatterns],
      matches_of_joined (by decide) (by decide) (by decide) ends threshold⟩
  · refine ⟨p, known, matchesText_iff.mpr ?_⟩
    obtain ⟨_, _, rfl, opens, -⟩ := accepts_seq_iff.mp accepted
    simp only [accepts, Bool.and_eq_true, List.isEmpty_iff, bne_iff_ne] at opens
    obtain ⟨rfl, opens⟩ := opens
    rw [List.nil_append] at accepted shape
    exact match_collapse (safetyPattern_blind_dotted known) (fun _ => by decide) ends
      (by rw [shape, List.append_nil]) (apart_of_boundary words.space opens)
      (Or.inr fun c first => absurd first (by simp)) accepted

/-! ## The engine's own words -/

theorem lastWord_of_ends {words : WordClass} {text : List Char} {c : Char}
    (last : text.getLast? = some c) (ends : endsSentence c = true ∨ isSpace c = true) :
    lastWord words.word text = false := by
  rw [lastWord, last, Option.any_some]
  exact ends.elim endsSentence_word (words.space c)

/-- A sentence that no pattern begins in has no match. -/
theorem clean_of_silent {words : WordClass} {text : List Char} (quiet : silent text = true)
    (ends : text.getLast? = some '.') : Clean words text := by
  intro p known
  rw [← Bool.not_eq_true, matchesText_iff]
  intro ⟨left, stretch, right, shape, accepted⟩
  have separate : lastWord words.word text = false := lastWord_of_ends ends (Or.inl (by decide))
  obtain ⟨left', empty, accepted⟩ := match_after_silent known quiet separate
    (show text ++ [] = left ++ stretch ++ right by rw [List.append_nil, shape]) accepted
  have nothing : stretch = [] := by
    have parts := List.append_eq_nil_iff.mp empty.symm
    exact (List.append_eq_nil_iff.mp parts.1).2
  subst nothing
  obtain ⟨bound, others, split, _, spelled⟩ := accepts_seq_iff.mp accepted
  obtain ⟨lead, tail, splitOthers, word, _⟩ := accepts_seq_iff.mp spelled
  have size := (spell_agrees word []).2
  have leadEmpty := (List.append_eq_nil_iff.mp split.symm).2
  rw [splitOthers] at leadEmpty
  rw [(List.append_eq_nil_iff.mp leadEmpty).1, List.length_nil] at size
  exact lead_nonempty known (List.length_eq_zero_iff.mp size.symm)

theorem advisory_clean (words : WordClass) : Clean words advisoryOnlyMessage.toList :=
  clean_of_silent (by decide +kernel) (by decide +kernel)

theorem bounded_advisory : bounded advisoryOnlyMessage = advisoryOnlyMessage := by decide +kernel

theorem sentence_length {raw sentence : List Char} (member : sentence ∈ sentences raw true) :
    sentence.length ≤ 140 ∧ ∀ c ∈ sentence, notNewline c = true := by
  simp only [sentences, if_true] at member
  obtain ⟨step, _, same⟩ := List.mem_map.mp member
  subst same
  refine ⟨boundText_length 140 step, fun c inside => ?_⟩
  obtain ⟨rest, split⟩ := boundText_append 140 step
  exact collapse_plain (split ▸ List.mem_append_left rest inside)

/-- The summary of a low-energy answer has a match only where the sentence in it has. -/
theorem low_summary_match {words : WordClass} {p : SafetyPattern} {raw sentence : List Char}
    (known : p ∈ safetyPatterns) (member : sentence ∈ sentences raw true)
    (matched : p.matchesText words
      (bounded (lowEnergySummaryPrefix ++ " " ++ String.ofList sentence)).toList = true) :
    p.matchesText words sentence = true := by
  have opening : (lowEnergySummaryPrefix ++ " " ++ String.ofList sentence).toList =
      (lowEnergySummaryPrefix ++ " ").toList ++ sentence := by
    rw [String.toList_append, String.toList_ofList]
  obtain ⟨short, plain⟩ := sentence_length member
  have fits : ((lowEnergySummaryPrefix ++ " ").toList ++ sentence).length ≤ maxReasoningLength := by
    rw [List.length_append]
    have size : (lowEnergySummaryPrefix ++ " ").toList.length = 21 := by decide +kernel
    have limit : maxReasoningLength = 420 := rfl
    omega
  rw [bounded, String.toList_ofList, opening, boundText_of_short fits] at matched
  obtain ⟨left, stretch, right, shape, accepted⟩ := matchesText_iff.mp matched
  have allPlain : True → ∀ c ∈ (lowEnergySummaryPrefix ++ " ").toList ++ sentence,
      notNewline c = true := by
    intro _ c inside
    rcases List.mem_append.mp inside with fixed | shown
    · have all : ((lowEnergySummaryPrefix ++ " ").toList.all notNewline) = true := by
        decide +kernel
      exact List.all_eq_true.mp all c fixed
    · exact plain c shown
  obtain ⟨left', stretch', right', split, accepted, _⟩ :=
    collapse_match (safetyPattern_blind_dotted known) allPlain shape accepted
  obtain ⟨before, within, accepted⟩ := match_after_silent known (by decide +kernel)
    (lastWord_of_ends (c := ' ') (by decide +kernel) (Or.inr (by decide))) split accepted
  exact matchesText_iff.mpr ⟨before, stretch', right', within, accepted⟩

/-! ## The engine's answers -/

theorem present_of_fails {words : WordClass} {raw : String} {low : Bool}
    (fails : ¬ Passes words raw.toList) (safe : (present words raw low).safeToPresent = true) :
    (present words raw low).summary = advisoryOnlyMessage ∧
      (present words raw low).strategySteps = [] := by
  unfold present at safe ⊢
  split
  · exact ⟨bounded_advisory, rfl⟩
  next noCommand =>
    rw [if_neg noCommand] at safe
    cases reason : findUnsafeReason words raw.toList with
    | some text => simp [reason] at safe
    | none => exact absurd ⟨Bool.not_eq_true _ ▸ noCommand, reason⟩ fails

/-- An answer that passes the checks is presented by its sentences. -/
theorem present_of_passes {words : WordClass} {raw : String}
    (passes : Passes words raw.toList) (low : Bool) :
    (present words raw low).safeToPresent = true ∧
      (present words raw low).strategySteps = (sentences raw.toList low).map String.ofList ∧
      ((present words raw low).summary ∈ (sentences raw.toList low).map String.ofList ∨
        Clean words (present words raw low).summary.toList ∨
        low = true ∧ ∃ sentence ∈ sentences raw.toList true, (present words raw low).summary =
          bounded (lowEnergySummaryPrefix ++ " " ++ String.ofList sentence)) := by
  obtain ⟨noCommand, noReason⟩ := passes
  simp only [present, noCommand, noReason, Bool.false_eq_true, if_false]
  cases low with
  | false =>
    simp only [Bool.false_eq_true, if_false, sentences, true_and]
    cases steps : extractSteps (boundText maxReasoningLength raw.toList) with
    | nil =>
      exact Or.inr (Or.inl (clean_of_silent (by decide +kernel) (by decide +kernel)))
    | cons first rest => exact Or.inl (by simp)
  | true =>
    simp only [if_true, sentences, true_and]
    cases steps : extractSteps (boundText maxReasoningLength raw.toList) with
    | nil =>
      refine ⟨rfl, rfl, Or.inr (Or.inl ?_)⟩
      exact clean_of_silent (by decide +kernel) (by decide +kernel)
    | cons first rest =>
      exact ⟨rfl, rfl, Or.inr (Or.inr ⟨boundText 140 first, by simp, rfl⟩)⟩

theorem generateStrategy_answered {words : WordClass} {py : Runtime}
    {client : String → Option String} {context : Dict} {raw : String}
    (answered : consult words py client (sanitizeContext context) = .ok (.answered raw)) :
    generateStrategy words py client context =
      .ok (present words raw (lowEnergy (sanitizeContext context))) := by
  simp only [generateStrategy, answered]
  rfl

/-- What is presented as safe is clean unless the client's answer passes the checks with words of
a pattern on different lines of a passage or is cut inside a word behind a forbidden one. -/
theorem presentsCleanly_iff (words : WordClass) (py : Runtime) (client : String → Option String)
    (context : Dict) :
    PresentsCleanly words py client context ↔ ∀ raw,
      consult words py client (sanitizeContext context) = .ok (.answered raw) →
        ¬ Exposed words raw.toList (lowEnergy (sanitizeContext context)) := by
  constructor
  · intro cleanly raw answered exposed
    obtain ⟨sentence, member, p, known, matched⟩ := match_of_exposed exposed
    obtain ⟨safe, steps, _⟩ := present_of_passes exposed.1 (lowEnergy (sanitizeContext context))
    have clean := (cleanly _ (generateStrategy_answered answered) safe).2 (String.ofList sentence)
      (by rw [steps]; exact List.mem_map_of_mem member)
    rw [String.toList_ofList, Clean] at clean
    rw [clean p known] at matched
    cases matched
  · intro unexposed out generated safe
    simp only [generateStrategy] at generated
    cases consulted : consult words py client (sanitizeContext context) with
    | error exc =>
      rw [consulted] at generated
      cases generated
    | ok consultation =>
      rw [consulted] at generated
      cases consultation with
      | ambiguous =>
        cases generated
        refine ⟨advisory_clean words, fun step member => ?_⟩
        rw [List.mem_singleton.mp member]
        exact clean_of_silent (by decide +kernel) (by decide +kernel)
      | failed =>
        cases generated
        cases safe
      | answered raw =>
        cases generated
        have hidden := unexposed raw consulted
        by_cases passes : Passes words raw.toList
        · have clean {sentence : List Char}
              (member : sentence ∈ sentences raw.toList (lowEnergy (sanitizeContext context))) :
              Clean words sentence := by
            intro p known
            rw [← Bool.not_eq_true, matchesText_iff]
            rintro ⟨left, stretch, right, shape, accepted⟩
            rw [sentences_eq] at member
            obtain ⟨passage, among, rfl⟩ := List.mem_map.mp member
            exact hidden (exposed_of_match passes known among shape accepted)
          obtain ⟨_, steps, summary⟩ :=
            present_of_passes passes (lowEnergy (sanitizeContext context))
          have cleanStep {step : String} (member : step ∈
              (sentences raw.toList (lowEnergy (sanitizeContext context))).map String.ofList) :
              Clean words step.toList := by
            obtain ⟨sentence, found, same⟩ := List.mem_map.mp member
            rw [← same, String.toList_ofList]
            exact clean found
          refine ⟨?_, fun step member => cleanStep (steps ▸ member)⟩
          rcases summary with shown | fixed | ⟨low, sentence, member, summary⟩
          · exact cleanStep shown
          · exact fixed
          · rw [low] at clean
            intro p known
            rw [← Bool.not_eq_true]
            intro matched
            rw [summary] at matched
            have found := low_summary_match known member matched
            rw [clean member p known] at found
            cases found
        · obtain ⟨summary, steps⟩ := present_of_fails passes safe
          rw [summary, steps]
          exact ⟨advisory_clean words, by simp⟩

/-- Of an answer on one line that is not cut inside a word nothing is exposed. -/
theorem not_exposed_of_line {words : WordClass} {raw : List Char} {low : Bool}
    (line : '\n' ∉ raw) (uncut : cutShort words raw low = false) : ¬ Exposed words raw low := by
  rintro ⟨-, passage, member, matched⟩
  have joinsNone {lead : String} {others : List String}
      (joins : JoinsLines words lead others passage) : False := by
    obtain ⟨left, first, between, second, right, shape, newline, -⟩ := joins
    obtain ⟨-, before, after, split, -⟩ := mem_passages words member
    apply line
    rw [split, shape]
    simp [newline]
  rcases matched with archive | threshold | ⟨cut, -⟩
  · exact joinsNone archive
  · exact joinsNone threshold
  · rw [uncut] at cut
    cases cut

/-- A client that answers with two words on two lines. -/
def twoLines : String → Option String := fun _ => some "Archive\nall"

/-- The two lines are presented as one. -/
theorem two_lines_presented :
    ¬ ∀ words py client context, PresentsCleanly words py client context := by
  intro always
  have presented : generateStrategy asciiWords asciiRuntime twoLines [] =
      .ok ⟨"Archive all", ["Archive all"], true, none⟩ := by
    decide +kernel
  have clean := (always asciiWords asciiRuntime twoLines [] _ presented rfl).1 archiveAcross
    (by simp [safetyPatterns, unsafePatterns])
  have matched : archiveAcross.matchesText asciiWords "Archive all".toList = true := by
    decide +kernel
  rw [matched] at clean
  cases clean

end Apcos.Guarantees.StrategyText

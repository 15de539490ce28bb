import Apcos.Source.Python.Matching
import Apcos.Source.Session.Identity
import Apcos.Source.Supervisor.Authorities

/-!
# Session policy against authority policy

core/identity/access_control.py and os/src/identity/access_control.rs. The
session gate and the identity authority decide the same request from their own
matrices and their own normalization of the tier text. The authority's is the
narrower reading: a tier text it recognizes is accepted by `IdentityContext`
as the same tier, but not conversely. The matrices themselves differ in two
places, `FAMILY`/`CREATE` and `GUEST`/`STRATEGY`.
-/
namespace Apcos.Guarantees.PolicyAgreement

open Apcos.Source
open Apcos.Source.Python (Runtime asciiUpper asciiLower isAsciiUpper isAsciiUpper_iff isSpace strip
  trimChars)
open Apcos.Source.Session (IdentityContext IdentityTier Permission actionOf permissions)
open Apcos.Source.Supervisor (Tier parseTier trim toAsciiLowercase authorizeWithTierString)

/-- The authority's name for a session action. -/
def supervisorAction : Permission → String
  | .create => "CREATE_TASK"
  | .complete => "COMPLETE_TASK"
  | .archive => "CANCEL_TASK"
  | .strategy => "STRATEGY"

def supervisorTier : IdentityTier → Tier
  | .owner => .owner
  | .family => .family
  | .guest => .guest

/-! ## The two readings of a tier text -/

theorem asciiUpper_asciiLower (c : Char) : asciiUpper (asciiLower c) = asciiUpper c := by
  by_cases upper : isAsciiUpper c = true
  · obtain ⟨least, most⟩ := (isAsciiUpper_iff c).mp upper
    have letters : ∀ n, 65 ≤ n → n ≤ 90 →
        asciiUpper (asciiLower (Char.ofNat n)) = asciiUpper (Char.ofNat n) := by decide
    have folded := letters c.toNat least most
    rwa [Char.ofNat_toNat] at folded
  · rw [asciiLower, if_neg upper]

/-- Lower-casing reaches plain text only from plain text. -/
theorem plain_of_asciiLower {c : Char}
    (plain : (asciiLower c).toNat < 128 ∧ isSpace (asciiLower c) = false) :
    c.toNat < 128 ∧ isSpace c = false := by
  by_cases upper : isAsciiUpper c = true
  · obtain ⟨least, most⟩ := (isAsciiUpper_iff c).mp upper
    refine ⟨by omega, ?_⟩
    simp only [isSpace, Bool.or_eq_false_iff, Bool.and_eq_false_iff, decide_eq_false_iff_not,
      beq_eq_false_iff_ne]
    omega
  · rwa [asciiLower, if_neg upper] at plain

/-- A word of plain letters is read alike: what Rust trims and lower-cases to it,
Python strips and upper-cases to its upper-case form. -/
theorem upper_strip_of_lower_trim (py : Runtime) {text word : String}
    (plain : (word.toList.all fun c => decide (c.toNat < 128) && !isSpace c) = true)
    (read : toAsciiLowercase (trim text) = word) :
    py.upper (strip text) = String.ofList (word.toList.map asciiUpper) := by
  have plain_letter : ∀ c ∈ word.toList, c.toNat < 128 ∧ isSpace c = false := by
    simpa [List.all_eq_true] using plain
  have letters : (trim text).toList.map asciiLower = word.toList := by
    rw [← read, toAsciiLowercase, String.toList_ofList]
  have trimmed_plain : ∀ c ∈ (trim text).toList, c.toNat < 128 ∧ isSpace c = false := by
    intro c member
    apply plain_of_asciiLower
    apply plain_letter
    rw [← letters]
    exact List.mem_map_of_mem member
  have kept : ∀ c ∈ trimChars Supervisor.isWhitespace text.toList, isSpace c = false := by
    intro c member
    rw [← @String.toList_ofList (trimChars _ _)] at member
    exact (trimmed_plain c member).2
  have same : strip text = trim text := by
    rw [strip, trim, Python.trimChars_widen (fun c => Supervisor.isSpace_of_isWhitespace)]
    intro c atEnd
    exact kept c (atEnd.elim List.mem_of_head? List.mem_of_getLast?)
  have ascii : Python.isAscii (trim text) = true := by
    rw [Python.isAscii, List.all_eq_true]
    intro c member
    exact decide_eq_true (trimmed_plain c member).1
  have folded : (trim text).toList.map asciiUpper =
      (trim text).toList.map (asciiUpper ∘ asciiLower) := by
    apply List.map_congr_left
    intro c _
    exact (asciiUpper_asciiLower c).symm
  rw [same, py.upper_ascii _ ascii, ← letters, List.map_map, folded]

/-- A tier text the authority recognizes names the same tier in the session. -/
theorem ofValue_of_parseTier (py : Runtime) {text : String} {tier : Tier}
    (recognized : parseTier text = some tier) :
    ∃ valid, IdentityTier.ofValue (py.upper (strip text)) = some valid ∧
      supervisorTier valid = tier := by
  unfold parseTier at recognized
  split at recognized
  · rename_i read
    rw [upper_strip_of_lower_trim py (by decide) read]
    exact ⟨.owner, by decide, Option.some.inj recognized⟩
  · rename_i read
    rw [upper_strip_of_lower_trim py (by decide) read]
    exact ⟨.family, by decide, Option.some.inj recognized⟩
  · rename_i read
    rw [upper_strip_of_lower_trim py (by decide) read]
    exact ⟨.guest, by decide, Option.some.inj recognized⟩
  · cases recognized

/-- What an accepted identity carries. -/
theorem create_ok {py : Runtime} {userId tier : String} {authenticated : Bool}
    {identity : IdentityContext}
    (accepted : IdentityContext.create py userId tier authenticated = .ok identity) :
    strip userId ≠ "" ∧ IdentityTier.ofValue (py.upper (strip tier)) = some identity.tier ∧
      identity.authenticated = authenticated := by
  unfold IdentityContext.create at accepted
  split at accepted
  · cases accepted
  · rename_i identified
    cases found : IdentityTier.ofValue (py.upper (strip tier)) with
    | none =>
      rw [found] at accepted
      cases accepted
    | some valid =>
      rw [found] at accepted
      cases accepted
      exact ⟨identified, rfl, rfl⟩

/-! ## The two decisions -/

/-- With a known tier and a user id the supervisor decides by its table. -/
theorem authorize_of_recognized {userId text : String} {tier : Tier} (action : Permission)
    (identified : strip userId ≠ "") (recognized : parseTier text = some tier) :
    (authorizeWithTierString userId text true (supervisorAction action)).allowed =
      Supervisor.isAllowed tier (supervisorAction action) := by
  have named : trim userId ≠ "" := by
    intro empty
    have blank := Supervisor.blank_of_trim_eq_empty empty
    rw [Python.blank, beq_iff_eq] at blank
    exact identified blank
  have actionNamed : trim (supervisorAction action) ≠ "" := by
    cases action with
    | create => decide
    | complete => decide
    | archive => decide
    | strategy => decide
  simp only [authorizeWithTierString, recognized, Supervisor.authorize, Bool.not_true,
    Bool.false_eq_true, if_false, named, actionNamed]
  cases Supervisor.isAllowed tier (supervisorAction action) with
  | true => rfl
  | false => rfl

theorem authorize_of_unrecognized {text : String} (userId : String) (authenticated : Bool)
    (action : String) (unknown : parseTier text = none) :
    (authorizeWithTierString userId text authenticated action).allowed = false := by
  rw [authorizeWithTierString, unknown]

theorem authorize_of_unauthenticated (userId text action : String) :
    (authorizeWithTierString userId text false action).allowed = false := by
  unfold authorizeWithTierString
  cases parseTier text with
  | none => rfl
  | some tier => rfl

/-- The cells in which the two matrices agree. -/
theorem matrices_agree_iff (tier : IdentityTier) (action : Permission) :
    ((permissions tier).contains action =
        Supervisor.isAllowed (supervisorTier tier) (supervisorAction action)) ↔
      ¬(tier = .family ∧ action = .create) ∧ ¬(tier = .guest ∧ action = .strategy) := by
  cases tier with
  | owner => cases action <;> decide
  | family => cases action <;> decide
  | guest => cases action <;> decide

/-- Inputs on which the session gate and the authority give one answer. -/
def PoliciesMeet (tierText : String) (tier : IdentityTier) (authenticated : Bool)
    (action : Permission) : Prop :=
  authenticated = false ∨
  ((parseTier tierText).isSome = true ∧
    ¬(tier = .family ∧ action = .create) ∧ ¬(tier = .guest ∧ action = .strategy)) ∨
  (parseTier tierText = none ∧
    (tier = .family ∧ (action = .create ∨ action = .archive) ∨
      tier = .guest ∧ action ≠ .strategy))

theorem not_permitted_iff (tier : IdentityTier) (action : Permission) :
    (permissions tier).contains action = false ↔
      tier = .family ∧ (action = .create ∨ action = .archive) ∨
        tier = .guest ∧ action ≠ .strategy := by
  cases tier with
  | owner => cases action <;> decide
  | family => cases action <;> decide
  | guest => cases action <;> decide

/-- The session gate and the authority decide alike exactly on these inputs. -/
theorem policies_agree_iff (py : Runtime) (intentType userId tierText : String)
    (authenticated : Bool) (action : Permission) (identity : IdentityContext)
    (mapped : actionOf py intentType = some action)
    (accepted : IdentityContext.create py userId tierText authenticated = .ok identity) :
    (Session.isAllowed py intentType identity =
        (authorizeWithTierString userId tierText authenticated (supervisorAction action)).allowed) ↔
      PoliciesMeet tierText identity.tier authenticated action := by
  obtain ⟨identified, valid, flag⟩ := create_ok accepted
  cases authenticated with
  | false =>
    have session : Session.isAllowed py intentType identity = false := by
      rw [Session.isAllowed, flag]
      rfl
    rw [session, authorize_of_unauthenticated]
    exact ⟨fun _ => Or.inl rfl, fun _ => rfl⟩
  | true =>
    have session : Session.isAllowed py intentType identity =
        (permissions identity.tier).contains action := by
      rw [Session.isAllowed, flag, mapped]
      rfl
    rw [session]
    cases recognized : parseTier tierText with
    | none =>
      rw [authorize_of_unrecognized userId true _ recognized, not_permitted_iff]
      simp [PoliciesMeet, recognized]
    | some tier =>
      obtain ⟨valid', named, same⟩ := ofValue_of_parseTier py recognized
      rw [valid] at named
      cases Option.some.inj named
      rw [authorize_of_recognized action identified recognized, ← same, matrices_agree_iff]
      simp [PoliciesMeet, recognized]

def familyMember : IdentityContext := ⟨"sam", .family, true, by decide⟩

def guestVisitor : IdentityContext := ⟨"kim", .guest, true, by decide⟩

theorem policies_agree_family_complete :
    PoliciesMeet "FAMILY" .family true .complete ∧
      Session.isAllowed Python.asciiRuntime " Mark_Completed " familyMember =
        (authorizeWithTierString "sam" "FAMILY" true "COMPLETE_TASK").allowed := by
  have meet : PoliciesMeet "FAMILY" familyMember.tier true .complete :=
    Or.inr (Or.inl (by decide))
  exact ⟨meet, (policies_agree_iff Python.asciiRuntime " Mark_Completed " "sam" "FAMILY" true
    .complete familyMember (by decide +kernel) rfl).mpr meet⟩

/-- A family member may not create in the session but may for the authority; a guest
may ask for a strategy in the session but not for the authority. -/
theorem policies_disagree_family_create_guest_strategy :
    (IdentityContext.create Python.asciiRuntime "sam" "FAMILY" true = .ok familyMember ∧
      actionOf Python.asciiRuntime "create_task" = some .create ∧
      Session.isAllowed Python.asciiRuntime "create_task" familyMember = false ∧
      (authorizeWithTierString "sam" "FAMILY" true (supervisorAction .create)).allowed = true) ∧
    IdentityContext.create Python.asciiRuntime "kim" "GUEST" true = .ok guestVisitor ∧
      actionOf Python.asciiRuntime "strategy" = some .strategy ∧
      Session.isAllowed Python.asciiRuntime "strategy" guestVisitor = true ∧
      (authorizeWithTierString "kim" "GUEST" true (supervisorAction .strategy)).allowed = false :=
  ⟨⟨rfl, by decide +kernel, by decide +kernel, by decide +kernel⟩,
    rfl, by decide +kernel, by decide +kernel, by decide +kernel⟩

end Apcos.Guarantees.PolicyAgreement

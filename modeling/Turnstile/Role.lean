import Turnstile.Text.Blank
import Turnstile.Text.Line
import Turnstile.Text.Quoted
set_option autoImplicit false

/-! Roles that a credential grants. The set is closed and names are matched
exactly. A list of roles is written with commas; reading one ignores blanks
around the parts and empty parts, and keeps the first occurrence of each role. -/

namespace Turnstile

inductive Role where
  | admin
  | user
  deriving DecidableEq, Repr

structure InvalidRole where
  text : String
  deriving DecidableEq, Repr

namespace InvalidRole

def message (invalid : InvalidRole) : String := "invalid role " ++ Text.quoted invalid.text

end InvalidRole

namespace Role

def name : Role → String
  | admin => "ADMIN"
  | user => "USER"

def ofName? (text : String) : Option Role :=
  if text = "ADMIN" then some admin
  else if text = "USER" then some user
  else none

def ofName (text : String) : Except InvalidRole Role :=
  match ofName? text with
  | some role => .ok role
  | none => .error ⟨text⟩

def withoutRepeats (seen : List Role) : List Role → List Role
  | [] => []
  | role :: rest =>
      if seen.contains role then withoutRepeats seen rest
      else role :: withoutRepeats (role :: seen) rest

def listParts (text : String) : List String :=
  (((Text.splitOn ',' text.toList).map Text.trimChars).filter (!·.isEmpty)).map String.ofList

def ofNames : List String → Except InvalidRole (List Role)
  | [] => .ok []
  | text :: rest => do
      let role ← ofName text
      let roles ← ofNames rest
      return role :: roles

def parseList (text : String) : Except InvalidRole (List Role) :=
  (ofNames (listParts text)).map (withoutRepeats [])

theorem ofName?_name (role : Role) : ofName? role.name = some role := by
  cases role <;> rfl

theorem mem_withoutRepeats {seen roles : List Role} {role : Role} :
    role ∈ withoutRepeats seen roles ↔ role ∈ roles ∧ role ∉ seen := by
  induction roles generalizing seen with
  | nil => simp [withoutRepeats]
  | cons first rest inductionHypothesis =>
      unfold withoutRepeats
      split
      · rename_i known
        have memberOfSeen : first ∈ seen := by simpa using known
        rw [inductionHypothesis]
        constructor
        · intro member
          exact ⟨List.mem_cons_of_mem _ member.1, member.2⟩
        · intro member
          refine ⟨?_, member.2⟩
          rcases List.mem_cons.mp member.1 with same | inRest
          · exact absurd (same ▸ memberOfSeen) member.2
          · exact inRest
      · rename_i unknown
        have notSeen : first ∉ seen := by simpa using unknown
        rw [List.mem_cons, inductionHypothesis]
        constructor
        · intro member
          rcases member with same | inRest
          · exact ⟨by simp [same], same ▸ notSeen⟩
          · exact ⟨List.mem_cons_of_mem _ inRest.1,
              fun bad => inRest.2 (List.mem_cons_of_mem _ bad)⟩
        · intro member
          by_cases same : role = first
          · exact Or.inl same
          · refine Or.inr ⟨?_, ?_⟩
            · exact (List.mem_cons.mp member.1).resolve_left same
            · intro bad
              exact member.2 ((List.mem_cons.mp bad).resolve_left same)

theorem nodup_withoutRepeats (seen roles : List Role) : (withoutRepeats seen roles).Nodup := by
  induction roles generalizing seen with
  | nil => simp [withoutRepeats]
  | cons first rest inductionHypothesis =>
      unfold withoutRepeats
      split
      · exact inductionHypothesis seen
      · refine List.nodup_cons.mpr ⟨?_, inductionHypothesis (first :: seen)⟩
        intro member
        exact (mem_withoutRepeats.mp member).2 (by simp)

end Role

end Turnstile

import Turnstile.Claims
import Turnstile.Proofs.Text.Split
import Turnstile.Proofs.Text.Trim
set_option autoImplicit false

/-! Lists of roles. A list is read part by part, from one comma to the next: a blank part says nothing,
any other part names a role or spoils the list, and of equal roles the first one stays. What is read
holds for claims as it is. -/

namespace Turnstile.Role

/-! ### Repeated roles -/

private theorem withoutRepeats_eq_filter (seen roles : List Role) :
    withoutRepeats seen roles = (roles.filter fun role => !seen.contains role).eraseDups := by
  induction roles generalizing seen with
  | nil => rfl
  | cons first rest ih =>
      rw [withoutRepeats]
      by_cases known : seen.contains first = true
      · rw [if_pos known, ih, List.filter_cons_of_neg (by simpa using known)]
      · rw [if_neg known, ih, List.filter_cons_of_pos (by simpa using known), List.eraseDups_cons,
          List.filter_filter]
        simp only [List.contains_cons, Bool.not_or]

theorem withoutRepeats_eq_eraseDups (roles : List Role) :
    withoutRepeats [] roles = roles.eraseDups := by
  rw [withoutRepeats_eq_filter, List.filter_eq_self.mpr (by simp)]

theorem withoutRepeats_of_nodup {seen roles : List Role} (distinct : roles.Nodup)
    (fresh : ∀ role ∈ roles, role ∉ seen) : withoutRepeats seen roles = roles := by
  induction roles generalizing seen with
  | nil => rfl
  | cons first rest ih =>
      obtain ⟨apart, restDistinct⟩ := List.nodup_cons.mp distinct
      have unseen : ¬ seen.contains first = true := by simpa using fresh first List.mem_cons_self
      rw [withoutRepeats, if_neg unseen, ih restDistinct]
      intro role member again
      rcases List.mem_cons.mp again with rfl | before
      · exact apart member
      · exact fresh role (List.mem_cons_of_mem _ member) before

theorem eraseDups_append_cons_of_mem {roles : List Role} {role : Role} (known : role ∈ roles)
    (more : List Role) : (roles ++ role :: more).eraseDups = (roles ++ more).eraseDups := by
  have dropped : (role :: more).removeAll roles = more.removeAll roles :=
    List.filter_cons_of_neg (by simpa using known)
  rw [List.eraseDups_append, List.eraseDups_append, dropped]

/-! ### Parts of a list -/

/-- The parts of a text, from one comma to the next. -/
structure CutAtCommas (text : String) (parts : List String) : Prop where
  filled : parts ≠ []
  plain : ∀ part ∈ parts, ',' ∉ part.toList
  joined : ",".intercalate parts = text

theorem exists_cutAtCommas (text : String) : ∃ parts, CutAtCommas text parts := by
  refine ⟨(Text.splitOn ',' text.toList).map String.ofList, ?_, ?_, ?_⟩
  · simpa using Text.splitOn_ne_nil ',' text.toList
  · intro part member
    obtain ⟨piece, inside, rfl⟩ := List.mem_map.mp member
    rw [String.toList_ofList]
    exact Text.not_mem_of_mem_splitOn inside
  · have pieces : ((Text.splitOn ',' text.toList).map String.ofList).map String.toList =
        Text.splitOn ',' text.toList := by simp
    apply String.toList_injective
    rw [String.toList_intercalate, pieces]
    exact Text.intercalate_splitOn ',' text.toList

/-- What the parts say that are not blank, without the blanks around it. -/
def namesIn (parts : List String) : List String := (parts.map Text.trim).filter (· ≠ "")

@[simp] theorem namesIn_append (before after : List String) :
    namesIn (before ++ after) = namesIn before ++ namesIn after := by
  simp [namesIn]

theorem namesIn_cons_of_blank {part : String} (blank : Text.trim part = "")
    (rest : List String) : namesIn (part :: rest) = namesIn rest := by
  simp [namesIn, blank]

theorem namesIn_cons_of_filled {part : String} (filled : Text.trim part ≠ "")
    (rest : List String) : namesIn (part :: rest) = Text.trim part :: namesIn rest := by
  simp [namesIn, filled]

theorem listParts_of_cut {text : String} {parts : List String} (cut : CutAtCommas text parts) :
    listParts text = namesIn parts := by
  have pieces : Text.splitOn ',' text.toList = parts.map String.toList := by
    rw [← cut.joined, String.toList_intercalate]
    apply Text.splitOn_intercalate
    · simpa using cut.filled
    · intro piece member
      obtain ⟨part, inside, rfl⟩ := List.mem_map.mp member
      exact cut.plain part inside
  rw [listParts, pieces]
  clear pieces cut
  induction parts with
  | nil => rfl
  | cons part rest ih =>
      by_cases blank : Text.trim part = ""
      · have empty : Text.trimChars part.toList = [] := by simpa [Text.trim] using blank
        rw [namesIn_cons_of_blank blank, ← ih]
        simp [empty]
      · have filled : Text.trimChars part.toList ≠ [] := by simpa [Text.trim] using blank
        rw [namesIn_cons_of_filled blank, ← ih]
        simp [filled, Text.trim]

/-! ### Names -/

theorem ofNames_append (first second : List String) :
    ofNames (first ++ second) =
      (ofNames first).bind fun roles => (ofNames second).map (roles ++ ·) := by
  induction first with
  | nil =>
      have unchanged : ∀ result : Except InvalidRole (List Role),
          result = result.map ([] ++ ·) := by
        intro result
        cases result <;> rfl
      exact unchanged (ofNames second)
  | cons name rest ih =>
      rw [List.cons_append, ofNames, ofNames, ih]
      cases ofName name with
      | error invalid => rfl
      | ok role =>
          cases ofNames rest with
          | error invalid => rfl
          | ok roles => cases ofNames second <;> rfl

theorem exists_mem_of_ofNames {names : List String} {roles : List Role}
    (read : ofNames names = .ok roles) {name : String} (member : name ∈ names) :
    ∃ role ∈ roles, ofName name = .ok role := by
  induction names generalizing roles with
  | nil => exact absurd member List.not_mem_nil
  | cons first rest ih =>
      rw [ofNames] at read
      cases firstRead : ofName first with
      | error invalid =>
          rw [firstRead] at read
          cases read
      | ok role =>
          cases restRead : ofNames rest with
          | error invalid =>
              rw [firstRead, restRead] at read
              cases read
          | ok more =>
              rw [firstRead, restRead] at read
              cases read
              rcases List.mem_cons.mp member with rfl | later
              · exact ⟨role, List.mem_cons_self, firstRead⟩
              · obtain ⟨found, inside, named⟩ := ih restRead later
                exact ⟨found, List.mem_cons_of_mem _ inside, named⟩

theorem map_ofNames_repeated {before : List String} {name : String} (member : name ∈ before)
    (after : List String) :
    (ofNames (before ++ name :: after)).map (withoutRepeats []) =
      (ofNames (before ++ after)).map (withoutRepeats []) := by
  rw [ofNames_append, ofNames_append]
  cases read : ofNames before with
  | error invalid => rfl
  | ok roles =>
      obtain ⟨role, known, named⟩ := exists_mem_of_ofNames read member
      rw [ofNames, named]
      cases ofNames after with
      | error invalid => rfl
      | ok more =>
          have same : withoutRepeats [] (roles ++ role :: more) =
              withoutRepeats [] (roles ++ more) := by
            rw [withoutRepeats_eq_eraseDups, withoutRepeats_eq_eraseDups,
              eraseDups_append_cons_of_mem known]
          exact congrArg Except.ok same

/-- A part that is not blank and names no role. -/
def Unknown (part : String) : Prop :=
  Text.trim part ≠ "" ∧ Text.trim part ≠ "ADMIN" ∧ Text.trim part ≠ "USER"

/-- The role that a part names, if it names one. -/
def ofPart? (part : String) : Option Role := ofName? (Text.trim part)

theorem ofName_of_unknown {part : String} (unknown : Unknown part) :
    ofName (Text.trim part) = .error ⟨Text.trim part⟩ := by
  simp [ofName, ofName?, unknown.2.1, unknown.2.2]

theorem ofNames_of_known {parts : List String} (known : ∀ part ∈ parts, ¬ Unknown part) :
    ofNames (namesIn parts) = .ok (parts.filterMap ofPart?) := by
  induction parts with
  | nil => rfl
  | cons part rest ih =>
      have restRead := ih fun other member => known other (List.mem_cons_of_mem _ member)
      by_cases blank : Text.trim part = ""
      · have silent : ofPart? part = none := by
          rw [ofPart?, blank]
          rfl
        rw [namesIn_cons_of_blank blank, List.filterMap_cons_none silent, restRead]
      · have named : ∃ role, ofPart? part = some role := by
          by_cases admin : Text.trim part = "ADMIN"
          · exact ⟨.admin, by rw [ofPart?, admin]; rfl⟩
          · by_cases user : Text.trim part = "USER"
            · exact ⟨.user, by rw [ofPart?, user]; rfl⟩
            · exact absurd ⟨blank, admin, user⟩ (known part List.mem_cons_self)
        obtain ⟨role, isRole⟩ := named
        have read : ofName (Text.trim part) = .ok role := by
          rw [ofName, ← ofPart?, isRole]
        rw [namesIn_cons_of_filled blank, List.filterMap_cons_some isRole, ofNames, read, restRead]
        rfl

/-- The first part that names no role spoils the list, whatever comes after it. -/
theorem ofNames_of_unknown {before : List String} {part : String}
    (known : ∀ earlier ∈ before, ¬ Unknown earlier) (unknown : Unknown part)
    (after : List String) :
    ofNames (namesIn (before ++ part :: after)) = .error ⟨Text.trim part⟩ := by
  rw [namesIn_append, namesIn_cons_of_filled unknown.1, ofNames_append, ofNames_of_known known,
    ofNames, ofName_of_unknown unknown]
  rfl

theorem known_or_first_unknown (parts : List String) :
    (∀ part ∈ parts, ¬ Unknown part) ∨ ∃ before part after, parts = before ++ part :: after ∧
      (∀ earlier ∈ before, ¬ Unknown earlier) ∧ Unknown part := by
  induction parts with
  | nil => exact Or.inl (by simp)
  | cons first rest ih =>
      by_cases unknown : Unknown first
      · exact Or.inr ⟨[], first, rest, rfl, by simp, unknown⟩
      · rcases ih with known | ⟨before, part, after, rfl, known, spoiled⟩
        · exact Or.inl (List.forall_mem_cons.mpr ⟨unknown, known⟩)
        · exact Or.inr ⟨first :: before, part, after, rfl,
            List.forall_mem_cons.mpr ⟨unknown, known⟩, spoiled⟩

/-! ### Lists -/

/-- A list of parts with something added to it that says nothing new. -/
inductive AddsNothing : List String → List String → Prop where
  | blanks {before after : List String} {part front back : String}
      (blank : ∀ char ∈ front.toList ++ back.toList, Text.isBlank char = true) :
      AddsNothing (before ++ part :: after) (before ++ (front ++ part ++ back) :: after)
  | empty {before after : List String} {part : String}
      (blank : ∀ char ∈ part.toList, Text.isBlank char = true) :
      AddsNothing (before ++ after) (before ++ part :: after)
  | repeated {before after : List String} {earlier part : String} (member : earlier ∈ before)
      (same : Text.trim part = Text.trim earlier) :
      AddsNothing (before ++ after) (before ++ part :: after)

section Cut

variable {text : String} {parts : List String}

theorem parseList_of_cut (cut : CutAtCommas text parts) :
    parseList text = (ofNames (namesIn parts)).map (withoutRepeats []) := by
  rw [parseList, listParts_of_cut cut]

theorem parseList_of_known (cut : CutAtCommas text parts)
    (known : ∀ part ∈ parts, ¬ Unknown part) :
    parseList text = .ok (parts.filterMap ofPart?).eraseDups := by
  rw [parseList_of_cut cut, ofNames_of_known known, Except.map, withoutRepeats_eq_eraseDups]

theorem parseList_of_unknown {before after : List String} {part : String}
    (cut : CutAtCommas text (before ++ part :: after))
    (known : ∀ earlier ∈ before, ¬ Unknown earlier) (unknown : Unknown part) :
    parseList text = .error ⟨Text.trim part⟩ := by
  rw [parseList_of_cut cut, ofNames_of_unknown known unknown]
  rfl

theorem parseList_eq_error_iff (cut : CutAtCommas text parts) (invalid : InvalidRole) :
    parseList text = .error invalid ↔ ∃ before part after, parts = before ++ part :: after ∧
      (∀ earlier ∈ before, ¬ Unknown earlier) ∧ Unknown part ∧ invalid = ⟨Text.trim part⟩ := by
  constructor
  · intro failed
    rcases known_or_first_unknown parts with known | ⟨before, part, after, rfl, known, unknown⟩
    · rw [parseList_of_known cut known] at failed
      cases failed
    · rw [parseList_of_unknown cut known unknown] at failed
      exact ⟨before, part, after, rfl, known, unknown, (Except.error.inj failed).symm⟩
  · rintro ⟨before, part, after, rfl, known, unknown, rfl⟩
    exact parseList_of_unknown cut known unknown

theorem parseList_eq_ok_iff (cut : CutAtCommas text parts) (roles : List Role) :
    parseList text = .ok roles ↔
      (∀ part ∈ parts, ¬ Unknown part) ∧ roles = (parts.filterMap ofPart?).eraseDups := by
  constructor
  · intro read
    rcases known_or_first_unknown parts with known | ⟨before, part, after, rfl, known, unknown⟩
    · rw [parseList_of_known cut known] at read
      exact ⟨known, (Except.ok.inj read).symm⟩
    · rw [parseList_of_unknown cut known unknown] at read
      cases read
  · rintro ⟨known, rfl⟩
    exact parseList_of_known cut known

theorem parseList_of_addsNothing (cut : CutAtCommas text parts) {longer : String}
    {more : List String} (cutMore : CutAtCommas longer more) (adds : AddsNothing parts more) :
    parseList longer = parseList text := by
  rw [parseList_of_cut cut, parseList_of_cut cutMore]
  cases adds with
  | @blanks before after part front back blank =>
      have same : Text.trim (front ++ part ++ back) = Text.trim part := by
        have frontBlank := fun char member => blank char (List.mem_append_left _ member)
        have backBlank := fun char member => blank char (List.mem_append_right _ member)
        rw [Text.trim, Text.trim, String.toList_append, String.toList_append,
          Text.trimChars_append_of_blank _ backBlank, Text.trimChars_blank_append _ frontBlank]
      have names : namesIn (before ++ (front ++ part ++ back) :: after) =
          namesIn (before ++ part :: after) := by simp [namesIn, same]
      rw [names]
  | @empty before after part blank =>
      have nothing : Text.trim part = "" := by
        rw [Text.trim, Text.trimChars_eq_nil_iff.mpr blank]
      rw [namesIn_append, namesIn_append, namesIn_cons_of_blank nothing]
  | @repeated before after earlier part member same =>
      by_cases blank : Text.trim part = ""
      · rw [namesIn_append, namesIn_append, namesIn_cons_of_blank blank]
      · have known : Text.trim part ∈ namesIn before := by
          rw [namesIn, List.mem_filter]
          exact ⟨same ▸ List.mem_map_of_mem member, by simpa using blank⟩
        rw [namesIn_append, namesIn_append, namesIn_cons_of_filled blank,
          map_ofNames_repeated known]

end Cut

theorem trim_name (role : Role) : Text.trim role.name = role.name := by
  cases role <;> rfl

/-- The names of roles, with commas between them, are read as these roles. -/
theorem parseList_names (roles : List Role) :
    parseList (",".intercalate (roles.map name)) = .ok roles.eraseDups := by
  by_cases empty : roles = []
  · rw [empty]
    rfl
  · have cut : CutAtCommas (",".intercalate (roles.map name)) (roles.map name) := by
      refine ⟨by simpa using empty, ?_, rfl⟩
      intro part member
      obtain ⟨role, _, rfl⟩ := List.mem_map.mp member
      cases role <;> decide
    have known : ∀ part ∈ roles.map name, ¬ Unknown part := by
      intro part member unknown
      obtain ⟨role, _, rfl⟩ := List.mem_map.mp member
      cases role with
      | admin => exact unknown.2.1 rfl
      | user => exact unknown.2.2 rfl
    have read : (roles.map name).filterMap ofPart? = roles := by
      have named : ofPart? ∘ name = some := by
        funext role
        rw [Function.comp, ofPart?, trim_name, ofName?_name]
      rw [List.filterMap_map, named, List.filterMap_some]
    rw [parseList_of_known cut known, read]

theorem nodup_of_parseList {text : String} {roles : List Role}
    (read : parseList text = .ok roles) : roles.Nodup := by
  obtain ⟨parts, cut⟩ := exists_cutAtCommas text
  obtain ⟨_, rfl⟩ := (parseList_eq_ok_iff cut roles).mp read
  rw [← withoutRepeats_eq_eraseDups]
  exact nodup_withoutRepeats [] _

/-- Every text has parts from comma to comma. The first part that is not blank and names no role is
the error; without one, the roles are those that the parts name, each where it comes up first. Nothing
that is added to a list without saying anything new makes a difference. The names of any roles are
read as these roles without their repetitions, and claims take roles that were read as they are. -/
theorem parseList_by_parts (text : String) :
    (∃ parts, CutAtCommas text parts) ∧
    (∀ parts, CutAtCommas text parts →
      (∀ invalid, parseList text = .error invalid ↔
        ∃ before part after, parts = before ++ part :: after ∧
          (∀ earlier ∈ before, ¬ Unknown earlier) ∧ Unknown part ∧
          invalid = ⟨Text.trim part⟩) ∧
      (∀ roles, parseList text = .ok roles ↔
        (∀ part ∈ parts, ¬ Unknown part) ∧ roles = (parts.filterMap ofPart?).eraseDups) ∧
      ∀ longer more, CutAtCommas longer more → AddsNothing parts more →
        parseList longer = parseList text) ∧
    (∀ roles : List Role, parseList (",".intercalate (roles.map name)) = .ok roles.eraseDups) ∧
    ∀ roles, parseList text = .ok roles → ∀ subject issuer now lifetime claims,
      Claims.issue? subject issuer roles now lifetime = some claims → claims.roles = roles := by
  refine ⟨exists_cutAtCommas text, ?parts, parseList_names, ?issued⟩
  case parts =>
    intro parts cut
    refine ⟨parseList_eq_error_iff cut, parseList_eq_ok_iff cut, ?_⟩
    intro longer more cutMore adds
    exact parseList_of_addsNothing cut cutMore adds
  case issued =>
    intro roles read subject issuer now lifetime claims issued
    obtain ⟨expires, _, rfl⟩ := Option.map_eq_some_iff.mp issued
    exact withoutRepeats_of_nodup (nodup_of_parseList read) (by simp)

example : parseList "USER, ,ADMIN ,USER" = .ok [.user, .admin] := by rfl

end Turnstile.Role

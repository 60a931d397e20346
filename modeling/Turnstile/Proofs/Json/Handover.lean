import Turnstile.Json.Record
import Turnstile.Policy.Value
set_option autoImplicit false

/-! Values that are handed on unchanged: not nested deep, without binary numbers, and without
objects that stand for numbers. What is built of texts, whole numbers and lists of roles is of
this kind. -/

namespace Turnstile.Json

open Policy.Value (ofJson? ofItems? ofMembers? ofEntries? numeralKey)

/-- A value of bounded depth that is read back as it is, and that policies can read. -/
structure Plain (bound : Nat) (value : Json) : Prop where
  depth : value.depth ≤ bound
  reread : value.rereadNumbers? = some value
  read : (ofJson? value).isSome = true

theorem Plain.mono {low high : Nat} {value : Json} (plain : value.Plain low) (le : low ≤ high) :
    value.Plain high :=
  { plain with depth := Nat.le_trans plain.depth le }

theorem plain_null : Plain 0 .null := ⟨Nat.le_refl _, rfl, rfl⟩

theorem plain_bool (value : Bool) : Plain 0 (.bool value) := ⟨Nat.le_refl _, rfl, rfl⟩

theorem plain_string (value : String) : Plain 0 (.string value) := ⟨Nat.le_refl _, rfl, rfl⟩

theorem plain_int (value : Int) : Plain 0 (.number (.int value)) := ⟨Nat.le_refl _, rfl, rfl⟩

theorem plain_array {bound : Nat} {items : List Json} (plain : ∀ item ∈ items, item.Plain bound) :
    Plain (bound + 1) (.array items) := by
  have whole : depthOfItems items ≤ bound ∧ rereadItems? items = some items ∧
      (ofItems? items).isSome = true := by
    induction items with
    | nil => exact ⟨Nat.zero_le _, rfl, rfl⟩
    | cons item rest ih =>
        obtain ⟨depth, reread, read⟩ := plain item List.mem_cons_self
        obtain ⟨depths, rereads, reads⟩ :=
          ih fun other member => plain other (List.mem_cons_of_mem _ member)
        obtain ⟨value, read⟩ := Option.isSome_iff_exists.mp read
        obtain ⟨values, reads⟩ := Option.isSome_iff_exists.mp reads
        rw [depthOfItems, rereadItems?, reread, rereads, ofItems?, read, reads]
        exact ⟨Nat.max_le.mpr ⟨depth, depths⟩, rfl, rfl⟩
  obtain ⟨depths, rereads, reads⟩ := whole
  constructor
  · rw [depth]
    exact Nat.succ_le_succ depths
  · rw [rereadNumbers?, rereads]
    rfl
  · rw [ofJson?, Option.isSome_map]
    exact reads

theorem plain_object {bound : Nat} {members : List (String × Json)}
    (unmarked : ∀ member ∈ members, member.1 ≠ numeralKey)
    (plain : ∀ member ∈ members, member.2.Plain bound) : Plain (bound + 1) (.object members) := by
  have whole : depthOfMembers members ≤ bound ∧ rereadMembers? members = some members ∧
      ∃ values, ofMembers? members = some values ∧ ofEntries? values = some (.object values) := by
    induction members with
    | nil => exact ⟨Nat.zero_le _, rfl, [], rfl, rfl⟩
    | cons member rest ih =>
        obtain ⟨key, value⟩ := member
        obtain ⟨depth, reread, read⟩ := plain (key, value) List.mem_cons_self
        obtain ⟨depths, rereads, values, reads, _⟩ :=
          ih (fun other member => unmarked other (List.mem_cons_of_mem _ member))
            fun other member => plain other (List.mem_cons_of_mem _ member)
        obtain ⟨first, read⟩ := Option.isSome_iff_exists.mp read
        rw [depthOfMembers, rereadMembers?, reread, rereads, ofMembers?, read, reads]
        refine ⟨Nat.max_le.mpr ⟨depth, depths⟩, rfl, _, rfl, ?_⟩
        cases first with
        | string text => rw [ofEntries?, if_neg (unmarked (key, value) List.mem_cons_self)]
        | null => rfl
        | bool _ => rfl
        | number _ => rfl
        | array _ => rfl
        | set _ => rfl
        | object _ => rfl
  obtain ⟨depths, rereads, values, reads, object⟩ := whole
  constructor
  · rw [depth]
    exact Nat.succ_le_succ depths
  · rw [rereadNumbers?, rereads]
    rfl
  · rw [ofJson?, reads, Option.bind_some, object]
    rfl

/-- A plain value that is not nested too deep can be read by policies. -/
theorem isSome_enter?_of_plain {bound : Nat} {value : Json} (plain : value.Plain bound)
    (shallow : bound ≤ depthLimit) : (Policy.Value.enter? value).isSome = true := by
  rw [Policy.Value.enter?, reread?, if_pos (Nat.le_trans plain.depth shallow), plain.reread]
  exact plain.read

/-! ### Sorted members -/

private theorem mem_insertMember {Value : Type} {key : String} {value : Value}
    {members : List (String × Value)} {member : String × Value}
    (inside : member ∈ insertMember key value members) :
    member = (key, value) ∨ member ∈ members := by
  induction members with
  | nil => exact Or.inl (List.mem_singleton.mp inside)
  | cons first rest ih =>
      obtain ⟨name, other⟩ := first
      rw [insertMember] at inside
      split at inside
      · rcases List.mem_cons.mp inside with same | later
        · exact Or.inl same
        · exact Or.inr (List.mem_cons_of_mem _ later)
      · split at inside
        · exact List.mem_cons.mp inside
        · rcases List.mem_cons.mp inside with same | later
          · exact Or.inr (same ▸ List.mem_cons_self)
          · rcases ih later with same | inRest
            · exact Or.inl same
            · exact Or.inr (List.mem_cons_of_mem _ inRest)

private theorem mem_foldl_insertMember {Value : Type} {members sorted : List (String × Value)}
    {member : String × Value}
    (inside : member ∈
      members.foldl (fun sorted (key, value) => insertMember key value sorted) sorted) :
    member ∈ members ∨ member ∈ sorted := by
  induction members generalizing sorted with
  | nil => exact Or.inr inside
  | cons first rest ih =>
      rcases ih inside with inRest | inserted
      · exact Or.inl (List.mem_cons_of_mem _ inRest)
      · rcases mem_insertMember inserted with same | before
        · exact Or.inl (same ▸ List.mem_cons_self)
        · exact Or.inr before

theorem mem_of_mem_sortMembers {Value : Type} {members : List (String × Value)}
    {member : String × Value} (inside : member ∈ sortMembers members) : member ∈ members := by
  rcases mem_foldl_insertMember inside with found | nothing
  · exact found
  · cases nothing

/-! ### Built objects -/

section Built

variable {depth : Nat} {written : List (Bytes × Tree)} {members : List (String × Tree)}

theorem buildMembers?_cons {name : String} {body : Bytes} {tree : Tree}
    {rest : List (Bytes × Tree)} (text : text? body = some name) :
    buildMembers? depth ((body, tree) :: rest) =
      (tree.build? depth).bind fun value =>
        (buildMembers? depth rest).map ((name, value) :: ·) := by
  rw [buildMembers?, text]
  cases tree.build? depth with
  | none => rfl
  | some value => cases buildMembers? depth rest <;> rfl

theorem namedMembers?_cons {body : Bytes} {tree : Tree} {rest : List (Bytes × Tree)}
    (named : Tree.namedMembers? ((body, tree) :: rest) = some members) :
    ∃ name others, text? body = some name ∧ Tree.namedMembers? rest = some others ∧
      members = (name, tree) :: others := by
  rw [Tree.namedMembers?] at named
  split at named
  · rename_i name others text namedRest
    cases named
    exact ⟨name, others, text, namedRest, rfl⟩
  · cases named

theorem exists_buildMembers?_of_build? {values : List (String × Json)}
    (built : ((Tree.object written).build? (depth + 1)).bind object? = some values) :
    ∃ unsorted, buildMembers? depth written = some unsorted ∧ sortMembers unsorted = values := by
  rw [Tree.build?] at built
  cases found : buildMembers? depth written with
  | none =>
      rw [found] at built
      cases built
  | some unsorted =>
      rw [found] at built
      cases built
      exact ⟨unsorted, rfl, rfl⟩

theorem mem_of_buildMembers? {values : List (String × Json)}
    (named : Tree.namedMembers? written = some members)
    (built : buildMembers? depth written = some values) {key : String} {value : Json}
    (inside : (key, value) ∈ values) :
    ∃ tree, (key, tree) ∈ members ∧ tree.build? depth = some value := by
  induction written generalizing members values with
  | nil =>
      cases built
      cases inside
  | cons first rest ih =>
      obtain ⟨body, tree⟩ := first
      obtain ⟨name, others, text, namedRest, rfl⟩ := namedMembers?_cons named
      rw [buildMembers?_cons text] at built
      obtain ⟨first, builds, built⟩ := Option.bind_eq_some_iff.mp built
      obtain ⟨more, builtRest, rfl⟩ := Option.map_eq_some_iff.mp built
      rcases List.mem_cons.mp inside with same | later
      · cases same
        exact ⟨tree, List.mem_cons_self, builds⟩
      · obtain ⟨found, member, foundBuilds⟩ := ih namedRest builtRest later
        exact ⟨found, List.mem_cons_of_mem _ member, foundBuilds⟩

/-- An object is plain if all of its members are built of trees that make plain values. -/
theorem plain_of_build? {bound : Nat} {values : List (String × Json)}
    (named : Tree.namedMembers? written = some members)
    (built : ((Tree.object written).build? (depth + 1)).bind object? = some values)
    (unmarked : ∀ member ∈ members, member.1 ≠ numeralKey)
    (plain : ∀ member ∈ members, ∀ value, member.2.build? depth = some value →
      value.Plain bound) :
    Plain (bound + 1) (.object values) := by
  obtain ⟨unsorted, found, rfl⟩ := exists_buildMembers?_of_build? built
  apply plain_object
  · rintro ⟨key, value⟩ inside
    obtain ⟨tree, member, _⟩ := mem_of_buildMembers? named found (mem_of_mem_sortMembers inside)
    exact unmarked _ member
  · rintro ⟨key, value⟩ inside
    obtain ⟨tree, member, builds⟩ := mem_of_buildMembers? named found
      (mem_of_mem_sortMembers inside)
    exact plain _ member value builds

end Built

/-! ### Typed members -/

namespace Tree

theorem lookup?_of_mem {key : String} {tree : Tree} {members : List (String × Tree)}
    (member : (key, tree) ∈ members) (once : occurrences key members ≤ 1) :
    lookup? key members = some tree := by
  induction members with
  | nil => cases member
  | cons first rest ih =>
      obtain ⟨name, value⟩ := first
      by_cases same : name = key
      · rw [lookup?, if_pos same]
        rcases List.mem_cons.mp member with here | later
        · cases here
          rfl
        · have twice : 2 ≤ occurrences key ((name, value) :: rest) := by
            have inside : (key, tree) ∈ rest.filter fun other => other.1 = key :=
              List.mem_filter.mpr ⟨later, by simp⟩
            rw [occurrences, List.filter_cons_of_pos (by simpa using same), List.length_cons]
            have filled := List.length_pos_of_mem inside
            omega
          omega
      · rw [lookup?, if_neg same]
        rcases List.mem_cons.mp member with here | later
        · cases here
          exact absurd rfl same
        · apply ih later
          rw [occurrences, List.filter_cons_of_neg (by simpa using same)] at once
          exact once

theorem plain_of_optionalText? {tree : Tree} {depth : Nat} {value : Json}
    (text : tree.optionalText?.isSome = true) (built : tree.build? depth = some value) :
    value.Plain 0 := by
  cases tree with
  | null =>
      cases built
      exact plain_null
  | string body =>
      rw [build?, Option.map_eq_some_iff] at built
      obtain ⟨text, _, rfl⟩ := built
      exact plain_string text
  | bool _ => cases text
  | numeral _ => cases text
  | array _ => cases text
  | object _ => cases text

theorem plain_of_text? {tree : Tree} {depth : Nat} {value : Json}
    (text : tree.text?.isSome = true) (built : tree.build? depth = some value) :
    value.Plain 0 := by
  cases tree with
  | string body =>
      rw [build?, Option.map_eq_some_iff] at built
      obtain ⟨text, _, rfl⟩ := built
      exact plain_string text
  | null => cases text
  | bool _ => cases text
  | numeral _ => cases text
  | array _ => cases text
  | object _ => cases text

theorem plain_of_int64? {tree : Tree} {depth : Nat} {value : Json}
    (whole : tree.int64?.isSome = true) (built : tree.build? depth = some value) :
    value.Plain 0 := by
  cases tree with
  | numeral numeral =>
      rw [build?, Option.map_eq_some_iff] at built
      obtain ⟨number, read, rfl⟩ := built
      cases number with
      | int whole => exact plain_int whole
      | real fraction =>
          rw [int64?, read] at whole
          cases whole
  | null => cases whole
  | bool _ => cases whole
  | string _ => cases whole
  | array _ => cases whole
  | object _ => cases whole

end Tree

end Turnstile.Json

import Turnstile.Proofs.Json.Handover
set_option autoImplicit false

/-! Members of built objects. Under a key that is written once an object that is built holds what
is built of the tree at this key, and nothing where there is none. Texts and whole numbers are
built as the values that typed reading finds in their trees. -/

namespace Turnstile.Json

/-! ### Sorted members -/

theorem lookup?_insertMember {Value : Type} (key name : String) (value : Value)
    (members : List (String × Value)) :
    lookup? key (insertMember name value members) =
      if name = key then some value else lookup? key members := by
  induction members with
  | nil => rfl
  | cons first rest ih =>
      obtain ⟨other, before⟩ := first
      rw [insertMember]
      by_cases replaced : name = other
      · rw [if_pos replaced, lookup?, lookup?, ← replaced]
        split <;> rfl
      · rw [if_neg replaced]
        by_cases smaller : name < other
        · rw [if_pos smaller, lookup?]
        · rw [if_neg smaller, lookup?, ih, lookup?]
          by_cases here : other = key
          · rw [if_pos here, if_neg (fun same => replaced (same.trans here.symm)), if_pos here]
          · rw [if_neg here, if_neg here]

theorem lookup?_eq_none {Value : Type} {key : String} {members : List (String × Value)}
    (absent : key ∉ members.map Prod.fst) : lookup? key members = none := by
  induction members with
  | nil => rfl
  | cons first rest ih =>
      rw [List.map_cons, List.mem_cons, not_or] at absent
      rw [lookup?, if_neg (fun same => absent.1 same.symm), ih absent.2]

theorem mem_of_lookup? {Value : Type} {key : String} {value : Value}
    {members : List (String × Value)} (found : lookup? key members = some value) :
    (key, value) ∈ members := by
  induction members with
  | nil => cases found
  | cons first rest ih =>
      obtain ⟨name, other⟩ := first
      rw [lookup?] at found
      split at found
      · rename_i here
        cases found
        exact here ▸ List.mem_cons_self
      · exact List.mem_cons_of_mem _ (ih found)

theorem lookup?_append {Value : Type} (key : String) (front back : List (String × Value)) :
    lookup? key (front ++ back) = (lookup? key front).or (lookup? key back) := by
  induction front with
  | nil => rfl
  | cons first rest ih =>
      rw [List.cons_append, lookup?, lookup?, ih]
      split <;> rfl

/-- Where each key comes once, lookup finds the members and nothing else. -/
theorem lookup?_eq_some_iff {Value : Type} {key : String} {value : Value}
    {members : List (String × Value)} (once : (members.map Prod.fst).Nodup) :
    lookup? key members = some value ↔ (key, value) ∈ members := by
  refine ⟨mem_of_lookup?, fun inside => ?_⟩
  induction members with
  | nil => cases inside
  | cons first rest ih =>
      obtain ⟨name, other⟩ := first
      rw [List.map_cons, List.nodup_cons] at once
      rw [lookup?]
      rcases List.mem_cons.mp inside with here | later
      · cases here
        rw [if_pos rfl]
      · have inside : key ∈ rest.map Prod.fst := List.mem_map_of_mem later
        have different : name ≠ key := fun same => once.1 (same.symm ▸ inside)
        rw [if_neg different, ih once.2 later]

theorem lookup?_perm {Value : Type} {members others : List (String × Value)}
    (once : (members.map Prod.fst).Nodup) (same : members.Perm others) (key : String) :
    lookup? key members = lookup? key others := by
  have onceToo : (others.map Prod.fst).Nodup := (same.map Prod.fst).nodup_iff.mp once
  apply Option.ext
  intro value
  rw [lookup?_eq_some_iff once, lookup?_eq_some_iff onceToo, same.mem_iff]

private theorem lookup?_foldl_insertMember {Value : Type} {key : String}
    {members : List (String × Value)} (once : (members.map Prod.fst).count key ≤ 1)
    (sorted : List (String × Value)) :
    lookup? key
        (members.foldl (fun sorted (name, value) => insertMember name value sorted) sorted) =
      (lookup? key members).or (lookup? key sorted) := by
  induction members generalizing sorted with
  | nil => rfl
  | cons first rest ih =>
      obtain ⟨name, value⟩ := first
      rw [List.map_cons, List.count_cons] at once
      rw [List.foldl_cons, ih (by omega), lookup?_insertMember, lookup?]
      by_cases here : name = key
      · have later : key ∉ rest.map Prod.fst := by
          rw [if_pos (beq_iff_eq.mpr here)] at once
          exact List.count_eq_zero.mp (by omega)
        rw [if_pos here, if_pos here, lookup?_eq_none later]
        rfl
      · rw [if_neg here, if_neg here]

/-- Sorting keeps a member whose key does not come twice. -/
theorem lookup?_sortMembers {Value : Type} {key : String} {members : List (String × Value)}
    (once : (members.map Prod.fst).count key ≤ 1) :
    lookup? key (sortMembers members) = lookup? key members := by
  rw [sortMembers, lookup?_foldl_insertMember once]
  exact Option.or_none

/-! ### Built members -/

theorem Tree.occurrences_eq_count (key : String) (members : List (String × Tree)) :
    Tree.occurrences key members = (members.map Prod.fst).count key := by
  rw [occurrences, List.count, List.countP_map, List.countP_eq_length_filter]
  rfl

section Built

variable {depth : Nat} {written : List (Bytes × Tree)} {members : List (String × Tree)}

/-- Built members have the keys as read, in order, and at each key what is built of its tree. -/
theorem lookup?_buildMembers? {values : List (String × Json)}
    (named : Tree.namedMembers? written = some members)
    (built : buildMembers? depth written = some values) :
    values.map Prod.fst = members.map Prod.fst ∧
      ∀ key, lookup? key values = (lookup? key members).bind (Tree.build? depth) := by
  induction written generalizing members values with
  | nil =>
      cases named
      cases built
      exact ⟨rfl, fun _ => rfl⟩
  | cons first rest ih =>
      obtain ⟨body, tree⟩ := first
      obtain ⟨name, others, text, namedRest, rfl⟩ := namedMembers?_cons named
      rw [buildMembers?_cons text] at built
      obtain ⟨value, builds, built⟩ := Option.bind_eq_some_iff.mp built
      obtain ⟨more, builtRest, rfl⟩ := Option.map_eq_some_iff.mp built
      obtain ⟨keys, found⟩ := ih namedRest builtRest
      refine ⟨by rw [List.map_cons, List.map_cons, keys], fun key => ?_⟩
      rw [lookup?, lookup?]
      by_cases here : name = key
      · rw [if_pos here, if_pos here, Option.bind_some, builds]
      · rw [if_neg here, if_neg here, found]

theorem exists_buildMembers? (named : Tree.namedMembers? written = some members)
    (each : ∀ member ∈ members, (member.2.build? depth).isSome = true) :
    ∃ values, buildMembers? depth written = some values := by
  induction written generalizing members with
  | nil => exact ⟨[], rfl⟩
  | cons first rest ih =>
      obtain ⟨body, tree⟩ := first
      obtain ⟨name, others, text, namedRest, rfl⟩ := namedMembers?_cons named
      obtain ⟨value, builds⟩ := Option.isSome_iff_exists.mp (each _ List.mem_cons_self)
      obtain ⟨values, builtRest⟩ := ih namedRest
        fun member inside => each member (List.mem_cons_of_mem _ inside)
      exact ⟨(name, value) :: values, by rw [buildMembers?_cons text, builds, builtRest]; rfl⟩

theorem exists_build?_of_mem {values : List (String × Json)}
    (named : Tree.namedMembers? written = some members)
    (built : buildMembers? depth written = some values) {member : String × Tree}
    (inside : member ∈ members) : ∃ value, member.2.build? depth = some value := by
  induction written generalizing members values with
  | nil =>
      cases named
      cases inside
  | cons first rest ih =>
      obtain ⟨body, tree⟩ := first
      obtain ⟨name, others, text, namedRest, rfl⟩ := namedMembers?_cons named
      rw [buildMembers?_cons text] at built
      obtain ⟨value, builds, built⟩ := Option.bind_eq_some_iff.mp built
      obtain ⟨more, builtRest, rfl⟩ := Option.map_eq_some_iff.mp built
      rcases List.mem_cons.mp inside with rfl | later
      · exact ⟨value, builds⟩
      · exact ih namedRest builtRest later

/-- Under a key that is written once, a built object holds what is built of the tree there. -/
theorem lookup?_of_build? {values : List (String × Json)}
    (named : Tree.namedMembers? written = some members)
    (built : ((Tree.object written).build? (depth + 1)).bind object? = some values)
    {key : String} (once : Tree.occurrences key members ≤ 1) :
    lookup? key values = (lookup? key members).bind (Tree.build? depth) := by
  obtain ⟨unsorted, found, rfl⟩ := exists_buildMembers?_of_build? built
  obtain ⟨keys, lookups⟩ := lookup?_buildMembers? named found
  rw [lookup?_sortMembers (by rw [keys, ← Tree.occurrences_eq_count]; exact once), lookups]

theorem exists_build? (named : Tree.namedMembers? written = some members)
    (each : ∀ member ∈ members, (member.2.build? depth).isSome = true) :
    ∃ values, ((Tree.object written).build? (depth + 1)).bind object? = some values := by
  obtain ⟨unsorted, built⟩ := exists_buildMembers? named each
  exact ⟨sortMembers unsorted, by rw [Tree.build?, built]; rfl⟩

end Built

/-! ### Typed values -/

namespace Tree

variable {tree : Tree}

theorem build?_of_text? {text : String} (read : tree.text? = some text) (depth : Nat) :
    tree.build? depth = some (.string text) := by
  cases tree with
  | string body =>
      rw [text?] at read
      rw [build?, read]
      rfl
  | null => cases read
  | bool _ => cases read
  | numeral _ => cases read
  | array _ => cases read
  | object _ => cases read

theorem build?_of_optionalText? {text : Option String} (read : tree.optionalText? = some text)
    (depth : Nat) : tree.build? depth = some ((text.map .string).getD .null) := by
  cases tree with
  | null =>
      cases read
      rfl
  | string body =>
      obtain ⟨found, bodyRead, rfl⟩ := Option.map_eq_some_iff.mp read
      rw [build?, bodyRead]
      rfl
  | bool _ => cases read
  | numeral _ => cases read
  | array _ => cases read
  | object _ => cases read

theorem build?_of_int64? {value : Int64} (read : tree.int64? = some value) (depth : Nat) :
    tree.build? depth = some (.number (.int value.toInt)) := by
  cases tree with
  | numeral numeral =>
      rw [int64?] at read
      split at read
      · rename_i whole number
        split at read
        · rename_i bounds
          cases read
          rw [build?, number, Int64.toInt_ofInt_of_le bounds.1 bounds.2]
          rfl
        · cases read
      · cases read
  | null => cases read
  | bool _ => cases read
  | string _ => cases read
  | array _ => cases read
  | object _ => cases read

end Tree

end Turnstile.Json

import Mathlib.Data.List.Forall2
import Turnstile.Proofs.Json.Members
set_option autoImplicit false

/-! What trees spell. A text may be spelled with any escapes, an absent one as null or not at all,
and a member may stand anywhere among the others. Typed reading finds exactly the values that are
spelled. -/

namespace Turnstile.Json.Tree

/-! ### Values -/

inductive SpellsText : Tree → String → Prop
  | written {body : Bytes} {text : String} (read : Json.text? body = some text) :
      SpellsText (.string body) text

inductive SpellsOptionalText : Tree → Option String → Prop
  | null : SpellsOptionalText .null none
  | text {tree : Tree} {text : String} (spelled : SpellsText tree text) :
      SpellsOptionalText tree (some text)

/-- A whole number in the notation of whole numbers. -/
inductive SpellsInt64 : Tree → Int64 → Prop
  | numeral {numeral : Numeral} {value : Int64}
      (whole : numeral.number? = some (.int value.toInt)) : SpellsInt64 (.numeral numeral) value

inductive SpellsList {Value : Type} (spells : Tree → Value → Prop) : Tree → List Value → Prop
  | items {items : List Tree} {values : List Value} (each : List.Forall₂ spells items values) :
      SpellsList spells (.array items) values

section Values

variable {tree : Tree}

theorem text?_eq_some_iff {text : String} : tree.text? = some text ↔ SpellsText tree text := by
  constructor
  · intro read
    cases tree with
    | string body => exact .written read
    | null => cases read
    | bool _ => cases read
    | numeral _ => cases read
    | array _ => cases read
    | object _ => cases read
  · rintro ⟨read⟩
    exact read

theorem optionalText?_eq_some_iff {text : Option String} :
    tree.optionalText? = some text ↔ SpellsOptionalText tree text := by
  constructor
  · intro read
    cases tree with
    | null =>
        cases read
        exact .null
    | string body =>
        obtain ⟨found, bodyRead, rfl⟩ := Option.map_eq_some_iff.mp read
        exact .text (.written bodyRead)
    | bool _ => cases read
    | numeral _ => cases read
    | array _ => cases read
    | object _ => cases read
  · rintro (_ | ⟨⟨read⟩⟩)
    · rfl
    · exact Option.map_eq_some_iff.mpr ⟨_, read, rfl⟩

theorem int64?_eq_some_iff {value : Int64} :
    tree.int64? = some value ↔ SpellsInt64 tree value := by
  constructor
  · intro read
    cases tree with
    | numeral numeral =>
        rw [int64?] at read
        split at read
        · rename_i whole number
          split at read
          · rename_i bounds
            cases read
            exact .numeral (by rw [number, Int64.toInt_ofInt_of_le bounds.1 bounds.2])
          · cases read
        · cases read
    | null => cases read
    | bool _ => cases read
    | string _ => cases read
    | array _ => cases read
    | object _ => cases read
  · rintro ⟨whole⟩
    have low := Int64.le_toInt value
    have high := Int64.toInt_lt value
    simp only [int64?, whole]
    rw [if_pos (by omega), Int64.ofInt_toInt]

section Items

variable {Value : Type} {read : Tree → Option Value} {spells : Tree → Value → Prop}
  (reads : ∀ {item : Tree} {value : Value}, read item = some value ↔ spells item value)

include reads

theorem each?_eq_some_iff {items : List Tree} {values : List Value} :
    each? read items = some values ↔ List.Forall₂ spells items values := by
  induction items generalizing values with
  | nil =>
      rw [each?, List.forall₂_nil_left_iff, Option.some.injEq, eq_comm]
  | cons item rest ih =>
      rw [each?]
      constructor
      · intro readAll
        split at readAll
        · rename_i value others readItem readRest
          cases readAll
          exact .cons (reads.mp readItem) (ih.mp readRest)
        · cases readAll
      · rintro (_ | ⟨spelled, others⟩)
        rw [reads.mpr spelled, ih.mpr others]

theorem list?_eq_some_iff {values : List Value} :
    tree.list? read = some values ↔ SpellsList spells tree values := by
  constructor
  · intro readAll
    cases tree with
    | array items => exact .items ((each?_eq_some_iff reads).mp readAll)
    | null => cases readAll
    | bool _ => cases readAll
    | numeral _ => cases readAll
    | string _ => cases readAll
    | object _ => cases readAll
  · rintro ⟨each⟩
    exact (each?_eq_some_iff reads).mpr each

end Items

end Values

/-! ### Members -/

section Members

variable {Value : Type}

/-- A member of the key spells the value, wherever it stands. -/
def Has (key : String) (spells : Tree → Value → Prop) (members : List (String × Tree))
    (value : Value) : Prop :=
  ∃ tree, (key, tree) ∈ members ∧ spells tree value

/-- A member of the key spells the value, or there is none and the value is the default. -/
def HasOr (key : String) (default : Value) (spells : Tree → Value → Prop)
    (members : List (String × Tree)) (value : Value) : Prop :=
  Has key spells members value ∨ key ∉ members.map Prod.fst ∧ value = default

variable {key : String} {read : Tree → Option Value} {spells : Tree → Value → Prop}
  {members : List (String × Tree)} {value : Value}
  (reads : ∀ {item : Tree} {value : Value}, read item = some value ↔ spells item value)
  (once : occurrences key members ≤ 1)

include reads once

theorem required?_eq_some_iff : required? key read members = some value ↔
    Has key spells members value := by
  constructor
  · intro isThere
    obtain ⟨tree, found, readTree⟩ := Option.bind_eq_some_iff.mp isThere
    exact ⟨tree, mem_of_lookup? found, reads.mp readTree⟩
  · rintro ⟨tree, member, spelled⟩
    rw [required?, lookup?_of_mem member once, Option.bind_some, reads.mpr spelled]

theorem withDefault?_eq_some_iff {default : Value} :
    withDefault? key default read members = some value ↔
      HasOr key default spells members value := by
  by_cases isThere : key ∈ members.map Prod.fst
  · obtain ⟨⟨name, tree⟩, member, rfl⟩ := List.mem_map.mp isThere
    have same : withDefault? name default read members = required? name read members := by
      rw [withDefault?, required?, lookup?_of_mem member once]
      rfl
    simp only [HasOr, same, isThere, not_true, false_and, or_false]
    exact required?_eq_some_iff reads once
  · have absent : ¬ Has key spells members value := by
      rintro ⟨tree, member, _⟩
      exact isThere (List.mem_map_of_mem member)
    rw [withDefault?, lookup?_eq_none isThere, HasOr, Option.some.injEq, eq_comm]
    simp [absent, isThere]

end Members

end Turnstile.Json.Tree

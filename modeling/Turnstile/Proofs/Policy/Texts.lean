import Turnstile.Policy.Value
set_option autoImplicit false

/-! Texts as values of policies: when two are the same, when a list or a set of them has
one, and that they are handed to policies unchanged. -/

namespace Turnstile.Policy

namespace Value

theorem order_string_eq_iff (left right : String) :
    order (.string left) (.string right) = .eq ↔ left = right := by
  rw [order, orderText]
  constructor
  · intro equal
    by_cases below : left < right
    · rw [if_pos below] at equal
      cases equal
    · rw [if_neg below] at equal
      by_cases same : left = right
      · exact same
      · rw [if_neg same] at equal
        cases equal
  · intro same
    subst same
    rw [if_neg (String.lt_irrefl left), if_pos rfl]

theorem same_string (left right : String) :
    same (.string left) (.string right) = decide (left = right) := by
  rw [Bool.eq_iff_iff, decide_eq_true_iff, ← order_string_eq_iff, same, beq_iff_eq]

theorem any_same_string (texts : List String) (wanted : String) :
    (texts.map Value.string).any (same (.string wanted)) = texts.contains wanted := by
  induction texts with
  | nil => rfl
  | cons text rest ih =>
      rw [List.map_cons, List.any_cons, ih, same_string, List.contains_cons]
      congr 1

theorem has_array_string (texts : List String) (wanted : String) :
    has (.array (texts.map Value.string)) (.string wanted) = texts.contains wanted :=
  any_same_string texts wanted

private theorem any_insertItem (text wanted : String) (items : List Value) :
    (insertItem (.string text) items).any (same (.string wanted)) =
      (same (.string wanted) (.string text) || items.any (same (.string wanted))) := by
  induction items with
  | nil => rfl
  | cons other rest ih =>
      rw [insertItem]
      cases compared : order (.string text) other with
      | lt => rfl
      | eq =>
          cases other with
          | string found =>
              have equal := (order_string_eq_iff text found).mp compared
              simp only [equal, List.any_cons, Bool.or_self_left]
          | null => cases compared
          | bool _ => cases compared
          | number _ => cases compared
          | array _ => cases compared
          | set _ => cases compared
          | object _ => cases compared
      | gt =>
          simp only [List.any_cons, ih]
          exact Bool.or_left_comm _ _ _

private theorem any_foldl_insertItem (texts : List String) (sorted : List Value)
    (wanted : String) :
    ((texts.map Value.string).foldl (fun sorted item => insertItem item sorted) sorted).any
        (same (.string wanted)) =
      (texts.contains wanted || sorted.any (same (.string wanted))) := by
  induction texts generalizing sorted with
  | nil => simp
  | cons text rest ih =>
      have first : same (.string wanted) (.string text) = (wanted == text) := by
        rw [same_string]
        exact Bool.eq_iff_iff.mpr (by simp)
      rw [List.map_cons, List.foldl_cons, ih, any_insertItem, List.contains_cons, first,
        Bool.or_assoc, Bool.or_left_comm]

theorem has_setOf_string (texts : List String) (wanted : String) :
    has (setOf (texts.map Value.string)) (.string wanted) = texts.contains wanted := by
  rw [setOf, has, any_foldl_insertItem]
  simp

end Value

/-! ### Handing over -/

theorem rereadItems?_string (texts : List String) :
    Json.rereadItems? (texts.map Json.string) = some (texts.map Json.string) := by
  induction texts with
  | nil => rfl
  | cons text rest ih =>
      rw [List.map_cons, Json.rereadItems?, ih]
      simp only [Json.rereadNumbers?]

theorem depthOfItems_string (texts : List String) :
    Json.depthOfItems (texts.map Json.string) = 0 := by
  induction texts with
  | nil => rfl
  | cons text rest ih =>
      rw [List.map_cons, Json.depthOfItems, ih]
      simp only [Json.depth, Nat.max_self]

theorem ofItems?_string (texts : List String) :
    Value.ofItems? (texts.map Json.string) = some (texts.map Value.string) := by
  induction texts with
  | nil => rfl
  | cons text rest ih =>
      rw [List.map_cons, Value.ofItems?, ih]
      rfl

theorem ofItems?_cons_eq_some_iff {item : Json} {rest : List Json} {values : List Value} :
    Value.ofItems? (item :: rest) = some values ↔
      ∃ value others, Value.ofJson? item = some value ∧ Value.ofItems? rest = some others ∧
        value :: others = values := by
  rw [Value.ofItems?]
  cases Value.ofJson? item with
  | none => simp
  | some value => cases Value.ofItems? rest <;> simp

end Turnstile.Policy

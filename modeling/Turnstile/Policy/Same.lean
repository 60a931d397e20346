import Turnstile.Policy.Expr
set_option autoImplicit false

/-! Comparison of policies in the form in which they are evaluated. A comparison that
succeeds comes with the proof that both sides are one. -/

namespace Turnstile.Policy

/-- A proof that both sides are one, if it is found. -/
def Same {α : Type} (left right : α) : Type := Option (PLift (left = right))

namespace Same

section Parts

variable {α β γ δ ε : Type} {a a' : α} {b b' : β} {c c' : γ} {d d' : δ}

def here (value : α) : Same value value := some ⟨rfl⟩

def nowhere : Same a a' := none

def atom? [DecidableEq α] (left right : α) : Same left right :=
  if same : left = right then some ⟨same⟩ else none

def one (make : α → β) : Same a a' → Same (make a) (make a')
  | some ⟨same⟩ => some ⟨by rw [same]⟩
  | none => none

def two (make : α → β → γ) : Same a a' → Same b b' → Same (make a b) (make a' b')
  | some ⟨same⟩, some ⟨second⟩ => some ⟨by rw [same, second]⟩
  | _, _ => none

def three (make : α → β → γ → δ) : Same a a' → Same b b' → Same c c' →
    Same (make a b c) (make a' b' c')
  | some ⟨same⟩, some ⟨second⟩, some ⟨third⟩ => some ⟨by rw [same, second, third]⟩
  | _, _, _ => none

def four (make : α → β → γ → δ → ε) : Same a a' → Same b b' → Same c c' → Same d d' →
    Same (make a b c d) (make a' b' c' d')
  | some ⟨same⟩, some ⟨second⟩, some ⟨third⟩, some ⟨fourth⟩ =>
      some ⟨by rw [same, second, third, fourth]⟩
  | _, _, _, _ => none

def isFound (same : Same a a') : Bool := Option.isSome same

theorem eq_of_isFound {same : Same a a'} (found : same.isFound = true) : a = a' :=
  (Option.get same found).down

end Parts

/-- Compare lists item by item. -/
def all {α : Type} (equal? : (left right : α) → Same left right) :
    (left right : List α) → Same left right
  | [], [] => here _
  | left :: lefts, right :: rights => two List.cons (equal? left right) (all equal? lefts rights)
  | _, _ => nowhere

def option {α : Type} (equal? : (left right : α) → Same left right) :
    (left right : Option α) → Same left right
  | none, none => here _
  | some left, some right => one some (equal? left right)
  | _, _ => nowhere

end Same

open Same (here nowhere atom? one two three four)

mutual

def Value.equal? : (left right : Value) → Same left right
  | .null, .null => here _
  | .bool left, .bool right => one Value.bool (atom? left right)
  | .number left, .number right => one Value.number (atom? left right)
  | .string left, .string right => one Value.string (atom? left right)
  | .array lefts, .array rights => one Value.array (Value.equalItems? lefts rights)
  | .set lefts, .set rights => one Value.set (Value.equalItems? lefts rights)
  | .object lefts, .object rights => one Value.object (Value.equalMembers? lefts rights)
  | _, _ => nowhere

def Value.equalItems? : (lefts rights : List Value) → Same lefts rights
  | [], [] => here _
  | left :: lefts, right :: rights =>
      two List.cons (left.equal? right) (Value.equalItems? lefts rights)
  | _, _ => nowhere

def Value.equalMembers? : (lefts rights : List (Value × Value)) → Same lefts rights
  | [], [] => here _
  | (key, value) :: lefts, (key', value') :: rights =>
      two List.cons (two Prod.mk (key.equal? key') (value.equal? value'))
        (Value.equalMembers? lefts rights)
  | _, _ => nowhere

end

mutual

def Expr.equal? : (left right : Expr) → Same left right
  | .constant value, .constant value' => one Expr.constant (value.equal? value')
  | .input, .input => here _
  | .name text, .name text' => one Expr.name (atom? text text')
  | .document path, .document path' => one Expr.document (atom? path path')
  | .index base place, .index base' place' =>
      two Expr.index (base.equal? base') (place.equal? place')
  | .array items, .array items' => one Expr.array (Expr.equalItems? items items')
  | .set items, .set items' => one Expr.set (Expr.equalItems? items items')
  | .object members, .object members' => one Expr.object (Expr.equalMembers? members members')
  | .call function arguments, .call function' arguments' =>
      two Expr.call (atom? function function') (Expr.equalItems? arguments arguments')
  | .apply path arguments, .apply path' arguments' =>
      two Expr.apply (atom? path path') (Expr.equalItems? arguments arguments')
  | .negate expr, .negate expr' => one Expr.negate (expr.equal? expr')
  | .operation operator left right, .operation operator' left' right' =>
      three Expr.operation (atom? operator operator') (left.equal? left') (right.equal? right')
  | .within item collection, .within item' collection' =>
      two Expr.within (item.equal? item') (collection.equal? collection')
  | .withinAt key item collection, .withinAt key' item' collection' =>
      three Expr.withinAt (key.equal? key') (item.equal? item') (collection.equal? collection')
  | .arrayOf body item, .arrayOf body' item' =>
      two Expr.arrayOf (Statement.equalAll? body body') (item.equal? item')
  | .setOf body item, .setOf body' item' =>
      two Expr.setOf (Statement.equalAll? body body') (item.equal? item')
  | .objectOf body key value, .objectOf body' key' value' =>
      three Expr.objectOf (Statement.equalAll? body body') (key.equal? key') (value.equal? value')
  | _, _ => nowhere

def Expr.equalItems? : (lefts rights : List Expr) → Same lefts rights
  | [], [] => here _
  | left :: lefts, right :: rights =>
      two List.cons (left.equal? right) (Expr.equalItems? lefts rights)
  | _, _ => nowhere

def Expr.equalMembers? : (lefts rights : List (Expr × Expr)) → Same lefts rights
  | [], [] => here _
  | (key, value) :: lefts, (key', value') :: rights =>
      two List.cons (two Prod.mk (key.equal? key') (value.equal? value'))
        (Expr.equalMembers? lefts rights)
  | _, _ => nowhere

def Pattern.equal? : (left right : Pattern) → Same left right
  | .name text, .name text' => one Pattern.name (atom? text text')
  | .value expr, .value expr' => one Pattern.value (expr.equal? expr')
  | .array items, .array items' => one Pattern.array (Pattern.equalItems? items items')
  | .object members, .object members' => one Pattern.object (Pattern.equalMembers? members members')
  | _, _ => nowhere

def Pattern.equalItems? : (lefts rights : List Pattern) → Same lefts rights
  | [], [] => here _
  | left :: lefts, right :: rights =>
      two List.cons (left.equal? right) (Pattern.equalItems? lefts rights)
  | _, _ => nowhere

def Pattern.equalMembers? : (lefts rights : List (Expr × Pattern)) → Same lefts rights
  | [], [] => here _
  | (key, item) :: lefts, (key', item') :: rights =>
      two List.cons (two Prod.mk (key.equal? key') (item.equal? item'))
        (Pattern.equalMembers? lefts rights)
  | _, _ => nowhere

def Statement.equal? : (left right : Statement) → Same left right
  | .holds expr, .holds expr' => one Statement.holds (expr.equal? expr')
  | .fails body, .fails body' => one Statement.fails (Statement.equalAll? body body')
  | .bind pattern expr, .bind pattern' expr' =>
      two Statement.bind (pattern.equal? pattern') (expr.equal? expr')
  | .visit key collection, .visit key' collection' =>
      two Statement.visit (key.equal? key') (collection.equal? collection')
  | .choose key item collection, .choose key' item' collection' =>
      three Statement.choose (key.equal? key') (item.equal? item') (collection.equal? collection')
  | .every key item collection body, .every key' item' collection' body' =>
      four Statement.every (atom? key key') (atom? item item') (collection.equal? collection')
        (Statement.equalAll? body body')
  | .changed path expr body, .changed path' expr' body' =>
      three Statement.changed (atom? path path') (expr.equal? expr') (Statement.equalAll? body body')
  | _, _ => nowhere

def Statement.equalAll? : (lefts rights : List Statement) → Same lefts rights
  | [], [] => here _
  | left :: lefts, right :: rights =>
      two List.cons (left.equal? right) (Statement.equalAll? lefts rights)
  | _, _ => nowhere

end

def Branch.equal? : (left right : Branch) → Same left right
  | ⟨body, keys, value⟩, ⟨body', keys', value'⟩ =>
      three Branch.mk (Statement.equalAll? body body') (Expr.equalItems? keys keys')
        (value.equal? value')

def Definition.equal? : (left right : Definition) → Same left right
  | ⟨parameters, branches⟩, ⟨parameters', branches'⟩ =>
      two Definition.mk (Pattern.equalItems? parameters parameters')
        (Same.all Branch.equal? branches branches')

def RuleGroup.equal? : (left right : RuleGroup) → Same left right
  | ⟨path, kind, default, definitions⟩, ⟨path', kind', default', definitions'⟩ =>
      four RuleGroup.mk (atom? path path') (atom? kind kind') (Same.option Expr.equal? default default')
        (Same.all Definition.equal? definitions definitions')

def Module.equal? : (left right : Module) → Same left right
  | ⟨package, rules⟩, ⟨package', rules'⟩ =>
      two Module.mk (atom? package package') (Same.all RuleGroup.equal? rules rules')

end Turnstile.Policy

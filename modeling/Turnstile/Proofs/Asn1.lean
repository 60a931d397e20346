import Turnstile.Asn1
import Turnstile.Der
set_option autoImplicit false

/-! The two readings of nested elements. The tolerant one reads whatever the strict one does, with
the same lengths and contents. -/

namespace Turnstile

namespace Der

variable {bytes content rest : Bytes} {tag : UInt8}

theorem element?_of_expect? (read : expect? tag bytes = some (content, rest)) :
    element? bytes = some (tag, content, rest) := by
  unfold expect? at read
  split at read
  · rename_i opened
    split at read
    · rename_i same
      cases read
      rw [opened, same]
    · cases read
  · cases read

theorem expect?_of_natural? {value : Nat} (read : natural? bytes = some (value, rest)) :
    ∃ content, expect? integerTag bytes = some (content, rest) := by
  obtain ⟨⟨content, _⟩, opened, read⟩ := Option.bind_eq_some_iff.mp read
  obtain ⟨_, _, same⟩ := Option.bind_eq_some_iff.mp read
  cases same
  exact ⟨content, opened⟩

end Der

namespace Asn1

variable {bytes content rest : Bytes} {tag : UInt8}

/-- A length in its shortest form is one that the tolerant reading takes for the same. -/
theorem length?_of_strict {size : Nat} (read : Der.length? bytes = some (size, rest)) :
    length? bytes = some (size, rest) ∧ rest.length < bytes.length := by
  unfold Der.length? at read
  split at read
  · cases read
  · rename_i first behind
    split at read
    · rename_i short
      cases read
      rw [length?, if_pos short]
      exact ⟨rfl, Nat.lt_succ_self _⟩
    · split at read
      · rename_i one
        subst one
        split at read
        · rename_i low behind
          split at read
          · cases read
          · cases read
            refine ⟨?_, Nat.lt_add_of_pos_right (by decide : 0 < 2)⟩
            simp [length?, Bytes.toNat]
        · cases read
      · split at read
        · rename_i two
          subst two
          split at read
          · rename_i high low behind
            dsimp only at read
            split at read
            · cases read
            · cases read
              refine ⟨?_, Nat.lt_add_of_pos_right (by decide : 0 < 3)⟩
              simp [length?, Bytes.toNat]
          · cases read
        · cases read

private theorem header_of_element? (read : Der.element? bytes = some (tag, content, rest)) :
    ∃ behind, bytes = tag :: behind ∧ tag? bytes = some (decide (tag.toNat < 64), tag.toNat % 32, behind) ∧
      length? behind = some (content.length, content ++ rest) ∧
      (content ++ rest).length < behind.length := by
  unfold Der.element? at read
  split at read
  · cases read
  · rename_i first behind
    split at read
    · cases read
    · rename_i plain
      split at read
      · cases read
      · rename_i size remaining sized
        obtain ⟨tolerant, shorter⟩ := length?_of_strict sized
        split at read
        · rename_i fits
          cases read
          have length : (remaining.take size).length = size := List.length_take_of_le fits
          refine ⟨behind, rfl, ?_, ?_, ?_⟩
          · rw [tag?, if_neg plain]
          · rw [length, List.take_append_drop, tolerant]
          · rwa [List.take_append_drop]
        · cases read

theorem length_of_element? (read : Der.element? bytes = some (tag, content, rest)) :
    content.length + rest.length + 2 ≤ bytes.length := by
  obtain ⟨behind, rfl, _, _, shorter⟩ := header_of_element? read
  rw [List.length_append] at shorter
  rw [List.length_cons]
  omega

/-- The node that an element of a tag and a content stands for. -/
private def nodeOf? (budget : Nat) (tag : UInt8) (content : Bytes) : Option Node :=
  if !decide (tag.toNat < 64) then some .other
  else if tag.toNat % 32 = 0x10 then (nodes? budget content).map .sequence
  else if tag.toNat % 32 = 0x11 then (nodes? budget content).map fun _ => .other
  else leaf? (tag.toNat % 32) content

private theorem nodes?_of_element? (read : Der.element? bytes = some (tag, content, rest))
    (budget : Nat) :
    nodes? (budget + 1) bytes = (nodeOf? budget tag content).bind fun node =>
        if rest.isEmpty then some [node]
        else (nodes? budget rest).bind fun more => some (node :: more) := by
  obtain ⟨behind, _, tagged, sized, _⟩ := header_of_element? read
  rw [nodes?, tagged]
  simp only [bind, Option.bind_some, sized, List.length_append]
  rw [if_neg (by omega)]
  simp only [List.take_left, List.drop_left]
  unfold nodeOf?
  split
  · rfl
  · split
    · rfl
    · split <;> rfl

/-- Octets that are read as some elements to their end. -/
def Reads (bytes : Bytes) (nodes : List Node) : Prop :=
  ∀ budget, bytes.length < budget → nodes? budget bytes = some nodes

/-- Elements that occur in key material, and the nodes that they are read as. -/
inductive Stands : UInt8 → Bytes → Node → Prop where
  | number {content : Bytes} : Stands Der.integerTag content .other
  | octets {content : Bytes} : Stands Der.octetStringTag content (.octets content)
  | sequence {content : Bytes} {items : List Node} (inner : Reads content items) :
      Stands Der.sequenceTag content (.sequence items)
  | foreign {tag : UInt8} {content : Bytes} (special : 64 ≤ tag.toNat) :
      Stands tag content .other

private theorem nodeOf?_of_stands {node : Node} (stands : Stands tag content node) {budget : Nat}
    (enough : content.length < budget) : nodeOf? budget tag content = some node := by
  cases stands with
  | number => rfl
  | octets => rfl
  | sequence inner =>
      have universal : nodeOf? budget Der.sequenceTag content =
          (nodes? budget content).map .sequence := rfl
      rw [universal, inner budget enough, Option.map_some]
  | foreign special =>
      have notUniversal : ¬ tag.toNat < 64 := Nat.not_lt.mpr special
      rw [nodeOf?, decide_eq_false notUniversal]
      rfl

namespace Reads

variable {node : Node} {more : List Node}

theorem filled (reads : Reads bytes more) : bytes ≠ [] := by
  rintro rfl
  cases reads 1 Nat.one_pos

theorem last (read : Der.element? bytes = some (tag, content, []))
    (stands : Stands tag content node) : Reads bytes [node] := by
  intro budget enough
  have length := length_of_element? read
  obtain ⟨budget, rfl⟩ : ∃ smaller, budget = smaller + 1 := ⟨budget - 1, by omega⟩
  rw [nodes?_of_element? read, nodeOf?_of_stands stands (by omega)]
  rfl

theorem cons (read : Der.element? bytes = some (tag, content, rest))
    (stands : Stands tag content node) (others : Reads rest more) : Reads bytes (node :: more) := by
  intro budget enough
  have length := length_of_element? read
  obtain ⟨budget, rfl⟩ : ∃ smaller, budget = smaller + 1 := ⟨budget - 1, by omega⟩
  have nonempty : rest.isEmpty = false := List.isEmpty_eq_false_iff.mpr others.filled
  rw [nodes?_of_element? read, nodeOf?_of_stands stands (by omega), Option.bind_some, nonempty,
    others budget (by omega)]
  rfl

theorem lastNatural {value : Nat} (read : Der.natural? bytes = some (value, [])) :
    Reads bytes [.other] := by
  obtain ⟨content, opened⟩ := Der.expect?_of_natural? read
  exact last (Der.element?_of_expect? opened) .number

theorem natural {value : Nat} (read : Der.natural? bytes = some (value, rest))
    (others : Reads rest more) : Reads bytes (.other :: more) := by
  obtain ⟨content, opened⟩ := Der.expect?_of_natural? read
  exact cons (Der.element?_of_expect? opened) .number others

theorem parse?_eq {nodes : List Node} (reads : Reads bytes nodes) : parse? bytes = some nodes :=
  reads (bytes.length + 1) (Nat.lt_succ_self _)

end Reads

end Asn1

end Turnstile

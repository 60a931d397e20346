import Turnstile.Proofs.Base64
import Turnstile.Proofs.Claims.Wire
import Turnstile.Proofs.Text.Split
set_option autoImplicit false

/-! Tokens read back. A text with three parts is these parts with dots between them, and none
of them has a dot; parts in base 64 have no dots in them either. A rendered header is read both
ways as what it was made of. -/

namespace Turnstile

namespace Base64

private theorem symbol_ne_dot : ∀ value < 64, urlSafe.symbol value ≠ '.' := by
  decide

theorem dot_not_mem_encodeUrl (bytes : Bytes) : '.' ∉ encodeUrl bytes := by
  intro member
  obtain ⟨value, inside, same⟩ := List.mem_map.mp member
  exact symbol_ne_dot value (sextets_lt bytes value inside) same

theorem encodeUrl_ne_nil {bytes : Bytes} (filled : bytes ≠ []) : encodeUrl bytes ≠ [] := by
  intro empty
  have read := decodeUrl?_encodeUrl bytes
  rw [empty] at read
  exact filled (Option.some.inj read).symm

end Base64

namespace Jws

/-- A text falls into three parts only if it is these parts with dots between them. -/
theorem Compact.eq_render_of_ofText? {token : String} {compact : Compact}
    (read : ofText? token = some compact) :
    token = compact.render ∧ '.' ∉ compact.header ∧ '.' ∉ compact.payload ∧
      '.' ∉ compact.signature := by
  unfold ofText? at read
  split at read
  · rename_i header payload signature pieces
    cases read
    have text := Text.intercalate_splitOn '.' token.toList
    have dotless : ∀ piece ∈ [header, payload, signature], '.' ∉ piece := by
      intro piece member
      rw [← pieces] at member
      exact Text.not_mem_of_mem_splitOn member
    rw [pieces] at text
    refine ⟨?_, dotless _ (by simp), dotless _ (by simp), dotless _ (by simp)⟩
    rw [← String.ofList_toList (s := token), ← text, render, signedText]
    simp [List.intercalate_cons_cons]
  · cases read

theorem Compact.ofText?_eq_some_iff (token : String) (compact : Compact) :
    ofText? token = some compact ↔
      token = compact.render ∧ '.' ∉ compact.header ∧ '.' ∉ compact.payload ∧
        '.' ∉ compact.signature := by
  constructor
  · exact eq_render_of_ofText?
  · rintro ⟨rfl, header, payload, signature⟩
    exact ofText?_render header payload signature

theorem Algorithm.ofName?_name (algorithm : Algorithm) :
    ofName? algorithm.name = some algorithm := by
  cases algorithm <;> rfl

theorem Algorithm.name_of_ofName? {text : String} {algorithm : Algorithm}
    (found : ofName? text = some algorithm) : algorithm.name = text := by
  have named := List.find?_some found
  exact of_decide_eq_true named

namespace Header

open Json (bodyOf)

private def trees (algorithm : Algorithm) (kid : String) : List (String × Json.Tree) :=
  [("typ", .string (bodyOf "JWT")), ("alg", .string (bodyOf algorithm.name)),
    ("kid", .string (bodyOf kid))]

private theorem parse?_render (algorithm : Algorithm) (kid : String) :
    Json.Tree.parse? (Utf8.encodeChars (render algorithm kid)) =
      some (.object (Json.written (trees algorithm kid))) := by
  rw [render, Json.parse?_render]
  rfl

theorem hint_render (algorithm : Algorithm) (kid : String) :
    (Json.Tree.parse? (Utf8.encodeChars (render algorithm kid))).bind KeyHint.ofTree? =
      some ⟨algorithm.name, kid⟩ := by
  rw [parse?_render, Option.bind_some, KeyHint.ofTree?, Json.namedMembers?_written]
  simp [trees, Json.Tree.eachAtMostOnce, Json.Tree.occurrences, Json.Tree.required?, Json.lookup?,
    Json.Tree.text?_shape]

theorem algorithm?_render (algorithm : Algorithm) (kid : String) :
    (Json.Tree.parse? (Utf8.encodeChars (render algorithm kid))).bind algorithm? =
      some algorithm := by
  rw [parse?_render, Option.bind_some, algorithm?, Json.namedMembers?_written]
  simp [trees, Json.Tree.eachAtMostOnce, Json.Tree.occurrences, Json.Tree.required?, Json.lookup?,
    Json.Tree.text?_shape, textKeys, listKeys, isWellTyped, isOptionalText,
    Json.Tree.optionalText?, Json.text?_bodyOf, memberText?, Algorithm.ofName?_name]

theorem members?_render (algorithm : Algorithm) (kid : String) :
    ∃ members, (Json.Tree.parse? (Utf8.encodeChars (render algorithm kid))).bind
        Json.Tree.members? = some members ∧
      ∀ member ∈ members, member.1 ∈ ["alg", "kid", "typ"] := by
  refine ⟨trees algorithm kid, ?_, by simp [trees]⟩
  rw [parse?_render, Option.bind_some, Json.Tree.members?, Json.namedMembers?_written]

theorem render_ne_nil (algorithm : Algorithm) (kid : String) :
    Utf8.encodeChars (render algorithm kid) ≠ [] := by
  intro empty
  have read := hint_render algorithm kid
  rw [empty] at read
  cases read

end Header

end Jws

end Turnstile

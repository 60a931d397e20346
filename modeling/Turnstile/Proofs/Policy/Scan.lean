import Turnstile.Proofs.Policy.QueryText
import Turnstile.Proofs.Text.Trim
set_option autoImplicit false

/-! The words of a path. Names that are parted by points are scanned name by name, whatever
follows them, and a query for what stands at a path is scanned to the words of that path.
Blanks and comments are passed over wherever they stand. -/

namespace Turnstile.Policy

/-- Whether a text is one word: letters, digits and underscores, with no digit in front. -/
def isName (text : String) : Bool :=
  match text.toList with
  | [] => false
  | first :: rest => Token.isNameStart first && rest.all Token.isNamePart

/-- Whether a text can be written as one step of a path: a name that is no keyword. -/
def isPlainName (text : String) : Bool := isName text && !Dialect.plain.isKeyword text

/-- The characters of steps behind a name. -/
def fieldChars (fields : List String) : List Char :=
  fields.flatMap fun field => '.' :: field.toList

theorem name?_of_isPlainName {name : String} (plain : isPlainName name = true) :
    Dialect.plain.name? name = some name := by
  simp only [isPlainName, Bool.and_eq_true, Bool.not_eq_true'] at plain
  rw [Dialect.name?, plain.2, if_neg Bool.false_ne_true]

theorem isName_of_isPlainName {name : String} (plain : isPlainName name = true) :
    isName name = true :=
  (Bool.and_eq_true_iff.mp plain).1

namespace Token

/-! ### Names -/

theorem isNamePart_of_isNameStart {char : Char} (starts : isNameStart char = true) :
    isNamePart char = true := by
  simp only [isNameStart, isNamePart, Char.isAlphanum, Bool.or_eq_true] at starts ⊢
  exact starts.imp Or.inl id

theorem exists_of_isName {name : String} (isAName : isName name = true) :
    ∃ first later, name.toList = first :: later ∧ isNameStart first = true ∧
      ∀ char ∈ later, isNamePart char = true := by
  unfold isName at isAName
  cases spelled : name.toList with
  | nil =>
      rw [spelled] at isAName
      cases isAName
  | cons first later =>
      simp only [spelled, Bool.and_eq_true, List.all_eq_true] at isAName
      exact ⟨first, later, rfl, isAName⟩

theorem isNamePart_of_isName {name : String} (isAName : isName name = true) :
    ∀ char ∈ name.toList, isNamePart char = true := by
  obtain ⟨first, later, spelled, starts, parts⟩ := exists_of_isName isAName
  rw [spelled, List.forall_mem_cons]
  exact ⟨isNamePart_of_isNameStart starts, parts⟩

/-! ### Gaps -/

theorem skipGap_of_length_le {first second : Nat} (lines : Nat) {text : List Char}
    (enough : text.length ≤ first) (alsoEnough : text.length ≤ second) :
    skipGap first lines text = skipGap second lines text := by
  induction first generalizing second lines text with
  | zero =>
      have empty : text = [] := List.eq_nil_of_length_eq_zero (Nat.le_zero.mp enough)
      subst empty
      cases second <;> rfl
  | succ first ih =>
      cases second with
      | zero =>
          have empty : text = [] := List.eq_nil_of_length_eq_zero (Nat.le_zero.mp alsoEnough)
          subst empty
          rfl
      | succ second =>
          have shorter : ∀ rest : List Char,
              (rest.dropWhile fun char => char ≠ '\n' ∧ char.toNat ≠ 0).length ≤ rest.length :=
            fun rest => (List.dropWhile_sublist _).length_le
          unfold skipGap
          split
          · exact ih lines (Nat.le_of_succ_le_succ enough) (Nat.le_of_succ_le_succ alsoEnough)
          · exact ih lines (Nat.le_of_succ_le_succ enough) (Nat.le_of_succ_le_succ alsoEnough)
          · exact ih _ (Nat.le_of_succ_le_succ enough) (Nat.le_of_succ_le_succ alsoEnough)
          · simp only [List.length_cons] at enough alsoEnough
            exact ih _ (by omega) (by omega)
          · rfl
          · exact ih lines (Nat.le_trans (shorter _) (Nat.le_of_succ_le_succ enough))
              (Nat.le_trans (shorter _) (Nat.le_of_succ_le_succ alsoEnough))
          · rfl

theorem length_of_skipGap {budget lines after : Nat} {text rest : List Char}
    (found : skipGap budget lines text = some (after, rest)) : rest.length ≤ text.length := by
  induction budget generalizing lines text with
  | zero =>
      cases found
      exact Nat.le_refl _
  | succ budget ih =>
      unfold skipGap at found
      split at found
      · exact Nat.le_succ_of_le (ih found)
      · exact Nat.le_succ_of_le (ih found)
      · exact Nat.le_succ_of_le (ih found)
      · exact Nat.le_succ_of_le (Nat.le_succ_of_le (ih found))
      · cases found
      · exact Nat.le_succ_of_le
          (Nat.le_trans (ih found) (List.dropWhile_sublist _).length_le)
      · cases found
        exact Nat.le_refl _

/-- The text behind the gap that it starts with, and the number of lines that end there. -/
def behindGap (lines : Nat) (text : List Char) : Option (Nat × List Char) :=
  skipGap text.length lines text

/-- What may follow a comment: the end of the text or of the line. -/
def EndsLine (rest : List Char) : Prop :=
  rest = [] ∨ ∃ returns more, rest = Text.lineEnd returns ++ more

/-- Blanks inside a line. -/
def Blanks (chars : List Char) : Prop := ∀ char ∈ chars, char = ' ' ∨ char = '\t'

theorem Blanks.isBlank {chars : List Char} (blanks : Blanks chars) :
    ∀ char ∈ chars, Text.isBlank char = true := by
  intro char member
  rcases blanks char member with rfl | rfl
  · rfl
  · rfl

theorem Blanks.lineFeed_not_mem {chars : List Char} (blanks : Blanks chars) : '\n' ∉ chars := by
  intro member
  rcases blanks _ member with same | same
  · cases same
  · cases same

theorem behindGap_blanks (lines : Nat) {blanks : List Char} (allBlank : Blanks blanks)
    (rest : List Char) : behindGap lines (blanks ++ rest) = behindGap lines rest := by
  induction blanks with
  | nil => rfl
  | cons char blanks ih =>
      have behind := ih fun other member => allBlank other (List.mem_cons_of_mem _ member)
      rw [← behind]
      cases allBlank char List.mem_cons_self with
      | inl space =>
          subst space
          rfl
      | inr tab =>
          subst tab
          rfl

theorem behindGap_lineEnd (lines : Nat) (returns : Bool) (rest : List Char) :
    behindGap lines (Text.lineEnd returns ++ rest) = behindGap (lines + 1) rest := by
  cases returns with
  | false => rfl
  | true => exact skipGap_of_length_le (lines + 1) (Nat.le_succ _) (Nat.le_refl _)

/-- What a comment can hold: neither the end of its line nor the end of the text. -/
def InLine (body : List Char) : Prop := ∀ char ∈ body, char ≠ '\n' ∧ char.toNat ≠ 0

theorem behindGap_comment (lines : Nat) {body : List Char} (inLine : InLine body)
    {rest : List Char} (ends : EndsLine rest) :
    behindGap lines ('#' :: (body ++ rest)) = behindGap lines rest := by
  have dropped : behindGap lines ('#' :: (body ++ rest)) =
      behindGap lines (rest.dropWhile fun char => char ≠ '\n' ∧ char.toNat ≠ 0) := by
    have passed : (body ++ rest).dropWhile (fun char => decide (char ≠ '\n' ∧ char.toNat ≠ 0)) =
        rest.dropWhile fun char => decide (char ≠ '\n' ∧ char.toNat ≠ 0) :=
      List.dropWhile_append_of_pos fun char member => decide_eq_true (inLine char member)
    have shorter : (rest.dropWhile fun char => decide (char ≠ '\n' ∧ char.toNat ≠ 0)).length ≤
        rest.length := (List.dropWhile_sublist _).length_le
    show skipGap (body ++ rest).length lines
      ((body ++ rest).dropWhile fun char => decide (char ≠ '\n' ∧ char.toNat ≠ 0)) = _
    rw [passed]
    refine skipGap_of_length_le lines ?_ (Nat.le_refl _)
    rw [List.length_append]
    omega
  rw [dropped]
  rcases ends with rfl | ⟨returns, more, rfl⟩
  · rfl
  · rw [behindGap_lineEnd]
    cases returns with
    | false => rfl
    | true => rfl

theorem behindGap_of_nameStart (lines : Nat) {char : Char} (rest : List Char)
    (starts : isNameStart char = true) :
    behindGap lines (char :: rest) = some (lines, char :: rest) := by
  have apart : ∀ other, isNameStart other = false → char ≠ other :=
    fun other noStart same => by rw [same, noStart] at starts; cases starts
  have space := apart ' ' (by decide)
  have tab := apart '\t' (by decide)
  have lineFeed := apart '\n' (by decide)
  have carriageReturn := apart '\r' (by decide)
  have comment := apart '#' (by decide)
  simp [behindGap, skipGap, space, tab, lineFeed, carriageReturn, comment]

theorem behindGap_name (lines : Nat) {name : String} (isAName : isName name = true)
    (rest : List Char) :
    behindGap lines (name.toList ++ rest) = some (lines, name.toList ++ rest) := by
  obtain ⟨first, later, spelled, starts, -⟩ := exists_of_isName isAName
  rw [spelled]
  exact behindGap_of_nameStart lines _ starts

/-! ### Words -/

/-- A place where no name goes on, and where none turns out to be the empty set. -/
def EndsName (rest : List Char) : Prop :=
  ∀ char ∈ rest.head?, isNamePart char = false ∧ char ≠ '('

theorem lexeme?_name {name : String} (isAName : isName name = true) {rest : List Char}
    (ends : EndsName rest) :
    lexeme? (name.toList ++ rest) = some (.word name, rest) := by
  obtain ⟨first, later, spelled, starts, parts⟩ := exists_of_isName isAName
  have passed : (later ++ rest).dropWhile isNamePart = rest := by
    rw [List.dropWhile_append_of_pos parts]
    cases rest with
    | nil => rfl
    | cons char more => simp [(ends char rfl).1]
  have taken : (later ++ rest).takeWhile isNamePart = later := by
    rw [List.takeWhile_append_of_pos parts]
    cases rest with
    | nil => simp
    | cons char more => simp [(ends char rfl).1]
  have named : String.ofList (first :: later) = name := by
    rw [← spelled, String.ofList_toList]
  have noParenthesis : emptySet? rest = none := by
    cases rest with
    | nil => rfl
    | cons char more => simp [emptySet?, (ends char rfl).2]
  rw [spelled, List.cons_append]
  unfold lexeme?
  split
  · rename_i same
    cases same
  · rename_i same
    cases same
    cases starts
  · rename_i same
    cases same
    cases starts
  · rename_i same
    cases same
    simp only [starts, if_true, passed, taken, named, noParenthesis, ite_self]

/-- The name behind a gap is scanned as one word. It is joined to what stands before it if
there is no gap. -/
theorem scanFrom_name {name : String} (isAName : isName name = true) {rest : List Char}
    (ends : EndsName rest) {lines after : Nat} {text : List Char}
    (behind : behindGap lines text = some (after, name.toList ++ rest)) (budget : Nat)
    (adjacent : Bool) :
    scanFrom (budget + 1) adjacent lines text =
      (scanFrom budget true 0 rest).map
        (⟨.word name, adjacent && (name.toList ++ rest).length == text.length,
          decide (0 < after)⟩ :: ·) := by
  obtain ⟨first, later, spelled, starts, -⟩ := exists_of_isName isAName
  have lexed := lexeme?_name isAName ends
  have noLine : lineEnds name.toList = 0 := List.count_eq_zero.mpr fun lineFeed =>
    absurd (isNamePart_of_isName isAName '\n' lineFeed) (by decide)
  have taken : (name.toList ++ rest).take ((name.toList ++ rest).length - rest.length) =
      name.toList := by
    rw [List.length_append, Nat.add_sub_cancel, List.take_left]
  have notEnd : first.toNat ≠ 0 := fun zero => by
    rw [← Char.ofNat_toNat first, zero] at starts
    cases starts
  unfold behindGap at behind
  rw [spelled, List.cons_append] at behind lexed taken
  rw [spelled] at noLine
  simp only [scanFrom, behind, notEnd, if_false, lexed]
  rw [← List.length_cons, taken, noLine, spelled]
  rfl

theorem scanFrom_name_here {name : String} (isAName : isName name = true) {rest : List Char}
    (ends : EndsName rest) (lines budget : Nat) (adjacent : Bool) :
    scanFrom (budget + 1) adjacent lines (name.toList ++ rest) =
      (scanFrom budget true 0 rest).map (⟨.word name, adjacent, decide (0 < lines)⟩ :: ·) := by
  rw [scanFrom_name isAName ends (behindGap_name lines isAName rest), BEq.rfl, Bool.and_true]

theorem scanFrom_name_apart {name : String} (isAName : isName name = true) {rest : List Char}
    (ends : EndsName rest) {lines after : Nat} {text : List Char}
    (behind : behindGap lines text = some (after, name.toList ++ rest))
    (longer : (name.toList ++ rest).length < text.length) (budget : Nat) (adjacent : Bool) :
    scanFrom (budget + 1) adjacent lines text =
      (scanFrom budget true 0 rest).map (⟨.word name, false, decide (0 < after)⟩ :: ·) := by
  rw [scanFrom_name isAName ends behind, beq_false_of_ne (Nat.ne_of_lt longer), Bool.and_false]

theorem scanFrom_point (rest : List Char) (budget : Nat) (adjacent : Bool) :
    scanFrom (budget + 1) adjacent 0 ('.' :: rest) =
      (scanFrom budget true 0 rest).map (⟨.sign ".", adjacent, false⟩ :: ·) := by
  have lexed : lexeme? ('.' :: rest) = some (.sign ".", rest) := rfl
  have behind : skipGap (rest.length + 1) 0 ('.' :: rest) = some (0, '.' :: rest) := rfl
  simp only [scanFrom, List.length_cons, behind, lexed, Nat.add_sub_cancel_left, BEq.rfl,
    Bool.and_true]
  rfl

theorem endsName_fieldChars (fields : List String) {tail : List Char} (ends : EndsName tail) :
    EndsName (fieldChars fields ++ tail) := by
  cases fields with
  | nil => exact ends
  | cons field rest =>
      intro char member
      cases member
      decide

theorem scanFrom_fieldChars {fields : List String}
    (names : ∀ field ∈ fields, isName field = true) {tail : List Char}
    (ends : EndsName tail) (budget : Nat) :
    scanFrom (2 * fields.length + budget) true 0 (fieldChars fields ++ tail) =
      (scanFrom budget true 0 tail).map (fieldTokens fields ++ ·) := by
  induction fields with
  | nil =>
      rw [List.length_nil, Nat.mul_zero, Nat.zero_add]
      exact (congrFun Option.map_id _).symm
  | cons field rest ih =>
      have isAName := names field List.mem_cons_self
      have restScanned := ih fun other member => names other (List.mem_cons_of_mem _ member)
      have size : 2 * (field :: rest).length + budget = (2 * rest.length + budget) + 1 + 1 := by
        rw [List.length_cons]
        omega
      have spelled : fieldChars (field :: rest) ++ tail =
          '.' :: (field.toList ++ (fieldChars rest ++ tail)) := by
        simp only [fieldChars, List.flatMap_cons, List.cons_append, List.append_assoc]
      rw [size, spelled, scanFrom_point,
        scanFrom_name_here isAName (endsName_fieldChars rest ends), restScanned]
      simp only [Option.map_map, fieldTokens, List.flatMap_cons]
      rfl

theorem scanFrom_equals (rest : List Char) (budget : Nat) :
    scanFrom (budget + 1) true 0 (" = ".toList ++ rest) =
      (scanFrom budget true 0 (' ' :: rest)).map (⟨.sign "=", false, false⟩ :: ·) := by
  have lexed : lexeme? ('=' :: ' ' :: rest) = some (.sign "=", ' ' :: rest) := rfl
  have behind : skipGap (rest.length + 1 + 1 + 1) 0 (' ' :: '=' :: ' ' :: rest) =
      some (0, '=' :: ' ' :: rest) := rfl
  have apart : (('=' :: ' ' :: rest).length == (' ' :: '=' :: ' ' :: rest).length) = false :=
    beq_false_of_ne (Nat.ne_of_lt (Nat.lt_succ_self _))
  show scanFrom (budget + 1) true 0 (' ' :: '=' :: ' ' :: rest) = _
  simp only [scanFrom, List.length_cons, behind, lexed] at apart ⊢
  rw [apart, Nat.add_sub_cancel_left]
  rfl

theorem scanFrom_query {path : List String} (names : ∀ field ∈ path, isName field = true)
    {tail : List Char} (ends : EndsName tail) (budget : Nat) :
    scanFrom (2 * path.length + budget + 3) false 0
        (resultBinding.toList ++ (" = ".toList ++ ("data".toList ++ (fieldChars path ++ tail)))) =
      (scanFrom budget true 0 tail).map (queryTokens path ++ ·) := by
  have endsBinding : EndsName (" = ".toList ++ ("data".toList ++ (fieldChars path ++ tail))) := by
    intro char member
    cases member
    decide
  have behind : behindGap 0 (' ' :: ("data".toList ++ (fieldChars path ++ tail))) =
      some (0, "data".toList ++ (fieldChars path ++ tail)) := rfl
  have rooted := scanFrom_name_apart (by decide) (endsName_fieldChars path ends) behind
    (Nat.lt_succ_self _) (2 * path.length + budget) true
  rw [scanFrom_name_here (by decide) endsBinding, scanFrom_equals, rooted,
    scanFrom_fieldChars names ends]
  simp only [Option.map_map, queryTokens]
  rfl

theorem not_joined_of_scanFrom {budget lines : Nat} {adjacent : Bool} {text : List Char}
    {tokens : List Token} (scanned : scanFrom budget adjacent lines text = some tokens)
    (shorter : ∀ after rest, behindGap lines text = some (after, rest) → rest ≠ [] →
      rest.length < text.length) :
    ∀ token ∈ tokens.head?, token.joined = false := by
  cases budget with
  | zero => cases scanned
  | succ budget =>
      unfold scanFrom at scanned
      split at scanned
      · cases scanned
      · cases scanned
        intro token member
        cases member
      · rename_i after char rest behind
        split at scanned
        · cases scanned
          intro token member
          cases member
        · split at scanned
          · cases scanned
          · obtain ⟨others, -, rfl⟩ := Option.map_eq_some_iff.mp scanned
            intro token member
            cases member
            have less := shorter after (char :: rest) behind (List.cons_ne_nil _ _)
            exact Bool.and_eq_false_iff.mpr (.inr (beq_false_of_ne (Nat.ne_of_lt less)))

theorem length_fieldChars (fields : List String)
    (names : ∀ field ∈ fields, isName field = true) :
    2 * fields.length ≤ (fieldChars fields).length := by
  induction fields with
  | nil => exact Nat.le_refl 0
  | cons field rest ih =>
      obtain ⟨first, later, spelled, -⟩ := exists_of_isName (names field List.mem_cons_self)
      have restLength := ih fun other member => names other (List.mem_cons_of_mem _ member)
      simp only [fieldChars, List.flatMap_cons, List.length_append, List.length_cons, spelled]
        at restLength ⊢
      omega

/-- Nothing but a gap behind the path of a query changes what the query asks for. -/
theorem scan?_query {path : List String} (names : ∀ field ∈ path, isName field = true)
    {tail : List Char} (ends : EndsName tail) {after : Nat}
    (silent : behindGap 0 tail = some (after, [])) :
    scan? (resultBinding.toList ++
        (" = ".toList ++ ("data".toList ++ (fieldChars path ++ tail)))) =
      some (queryTokens path) := by
  have ended : ∀ budget, scanFrom (budget + 1) true 0 tail = some [] := fun budget => by
    unfold behindGap at silent
    simp only [scanFrom, silent]
  have long := length_fieldChars path names
  obtain ⟨spare, size⟩ : ∃ spare, (resultBinding.toList ++
      (" = ".toList ++ ("data".toList ++ (fieldChars path ++ tail)))).length + 1 =
        2 * path.length + (spare + 1) + 3 :=
    ⟨(fieldChars path).length - 2 * path.length + tail.length + 5, by
      simp only [List.length_append]
      have start : resultBinding.toList.length + " = ".toList.length + "data".toList.length = 8 :=
        rfl
      omega⟩
  rw [scan?, size, scanFrom_query names ends, ended, Option.map_some, List.append_nil]

end Token

theorem toList_dotted (name : String) (fields : List String) :
    (".".intercalate (name :: fields)).toList = name.toList ++ fieldChars fields := by
  induction fields generalizing name with
  | nil => rw [String.intercalate_singleton, fieldChars, List.flatMap_nil, List.append_nil]
  | cons field rest ih =>
      rw [String.intercalate_cons_cons, String.toList_append, String.toList_append, ih,
        List.append_assoc]
      rfl

end Turnstile.Policy

import Turnstile.Proofs.Policy.Groups
import Turnstile.Proofs.Policy.Scan
import Turnstile.Proofs.Text.Trim
set_option autoImplicit false

/-! Package lines as they may be written. A source starts with lines that are empty or hold
comments, and then names its package in a line of its own. The package is read twice, once
word by word as the engine does it and once line by line. Both readings find the same names
if no comment stands behind them; line by line, a comment counts as a part of the package. -/

namespace Turnstile.Policy

/-- What stands in a line behind its words: blanks, and perhaps a comment. -/
structure Margin where
  blanks : List Char
  comment : Option (List Char)
  allBlank : Token.Blanks blanks
  inLine : ∀ body ∈ comment, Token.InLine body

namespace Margin

def commentText (margin : Margin) : List Char :=
  match margin.comment with
  | none => []
  | some body => '#' :: body

def text (margin : Margin) : List Char := margin.blanks ++ margin.commentText

end Margin

/-- A line that holds no words. -/
structure EmptyLine extends Margin where
  /-- A carriage return stands in front of the line feed. -/
  returns : Bool

def EmptyLine.text (line : EmptyLine) : List Char :=
  line.toMargin.text ++ Text.lineEnd line.returns

/-- A source that names its package in a line of its own. -/
structure Layout where
  above : List EmptyLine
  indent : List Char
  /-- Blanks between the keyword and the package, beside the one that has to be there. -/
  gap : List Char
  name : String
  fields : List String
  margin : Margin
  below : List Char
  indented : Token.Blanks indent
  parted : Token.Blanks gap
  plain : ∀ field ∈ name :: fields, isPlainName field = true
  endsLine : Token.EndsLine below

namespace Layout

def path (layout : Layout) : List String := layout.name :: layout.fields

/-- The package with points between its names. -/
def dotted (layout : Layout) : List Char := layout.name.toList ++ fieldChars layout.fields

/-- The package line up to its end. -/
def line (layout : Layout) : List Char :=
  layout.indent ++ ("package ".toList ++ (layout.gap ++ (layout.dotted ++ layout.margin.text)))

def text (layout : Layout) : List Char :=
  layout.above.flatMap EmptyLine.text ++ (layout.line ++ layout.below)

def source (layout : Layout) : String := String.ofList layout.text

/-- The package with what stands behind it, up to the last character that is no blank. -/
def packageText (layout : Layout) : List Char :=
  Text.trimEnd (layout.dotted ++ layout.margin.text)

end Layout

/-! ### Line by line -/

namespace Margin

theorem trimChars_text (margin : Margin) :
    Text.trimChars margin.text = Text.trimEnd margin.commentText := by
  rw [Text.trimChars, text, Text.trimStart_append_of_blank _ _ margin.allBlank.isBlank, commentText]
  cases margin.comment with
  | none => rfl
  | some body => rfl

theorem lineFeed_not_mem_text (margin : Margin) : '\n' ∉ margin.text := by
  rw [text, List.mem_append, not_or]
  refine ⟨margin.allBlank.lineFeed_not_mem, ?_⟩
  unfold commentText
  cases spelled : margin.comment with
  | none => exact List.not_mem_nil
  | some body =>
      intro member
      cases member with
      | tail _ inside => exact (margin.inLine body spelled _ inside).1 rfl

end Margin

namespace NamedModule

theorem packageOfLine?_congr {line other : List Char}
    (same : Text.trimChars line = Text.trimChars other) :
    packageOfLine? line = packageOfLine? other := by
  simp only [packageOfLine?, same]

theorem packageOfLine?_margin (margin : Margin) : packageOfLine? margin.text = none := by
  rw [packageOfLine?, margin.trimChars_text, Margin.commentText]
  cases margin.comment with
  | none => rfl
  | some body =>
      simp only [Text.trimEnd_cons_of_not_blank body (show Text.isBlank '#' = false from rfl)]
      rfl

theorem findSome?_above (above : List EmptyLine) (rest : List Char) :
    (Text.lines (above.flatMap EmptyLine.text ++ rest)).findSome? packageOfLine? =
      (Text.lines rest).findSome? packageOfLine? := by
  induction above with
  | nil => rfl
  | cons line others ih =>
      obtain ⟨first, cut, trimmed⟩ := Text.exists_trimmed_line line.toMargin.text
        (others.flatMap EmptyLine.text ++ rest) line.lineFeed_not_mem_text line.returns
      have unnamed : packageOfLine? first = none := by
        rw [packageOfLine?_congr trimmed]
        exact packageOfLine?_margin line.toMargin
      have spelled : (line :: others).flatMap EmptyLine.text ++ rest =
          line.toMargin.text ++
            (Text.lineEnd line.returns ++ (others.flatMap EmptyLine.text ++ rest)) := by
        simp only [List.flatMap_cons, EmptyLine.text, List.append_assoc]
      rw [spelled, cut, List.findSome?_cons, unnamed, ih]

end NamedModule

/-! ### The package in its line -/

theorem Token.visible_of_isNamePart {char : Char} (part : isNamePart char = true) :
    Text.Visible char := by
  have ranges : (decide (char.val ≥ 'A'.val ∧ char.val ≤ 'Z'.val) ||
      (decide (char.val ≥ 'a'.val) && decide (char.val ≤ 'z'.val)) ||
        (decide (char.val ≥ '0'.val) && decide (char.val ≤ '9'.val)) || char == '_') = true := part
  simp only [Bool.or_eq_true, Bool.and_eq_true, decide_eq_true_eq, beq_iff_eq, ge_iff_le,
    UInt32.le_iff_toNat_le] at ranges
  rcases ranges with ((⟨low, high⟩ | ⟨low, high⟩) | ⟨low, high⟩) | rfl
  · exact ⟨Nat.le_trans (by decide) low, Nat.lt_of_le_of_lt high (by decide)⟩
  · exact ⟨Nat.le_trans (by decide) low, Nat.lt_of_le_of_lt high (by decide)⟩
  · exact ⟨Nat.le_trans (by decide) low, Nat.lt_of_le_of_lt high (by decide)⟩
  · exact ⟨by decide, by decide⟩

namespace Layout

theorem visible_of_mem_fieldChars {fields : List String}
    (names : ∀ field ∈ fields, isName field = true) {char : Char}
    (inside : char ∈ fieldChars fields) : Text.Visible char := by
  obtain ⟨field, listed, member⟩ := List.mem_flatMap.mp inside
  rcases List.mem_cons.mp member with point | letter
  · rw [point]
    exact ⟨by decide, by decide⟩
  · exact Token.visible_of_isNamePart
      (Token.isNamePart_of_isName (names field listed) char letter)

theorem names (layout : Layout) : ∀ field ∈ layout.path, isName field = true :=
  fun field member => isName_of_isPlainName (layout.plain field member)

theorem visible_of_mem_dotted (layout : Layout) {char : Char} (inside : char ∈ layout.dotted) :
    Text.Visible char := by
  obtain ⟨nameIsName, fieldsAreNames⟩ := List.forall_mem_cons.mp layout.names
  rcases List.mem_append.mp inside with letter | step
  · exact Token.visible_of_isNamePart (Token.isNamePart_of_isName nameIsName char letter)
  · exact visible_of_mem_fieldChars fieldsAreNames step

theorem exists_dotted (layout : Layout) :
    ∃ first later, layout.dotted = first :: later ∧ Text.isBlank first = false := by
  obtain ⟨first, later, spelled, -⟩ :=
    Token.exists_of_isName (layout.names layout.name List.mem_cons_self)
  refine ⟨first, later ++ fieldChars layout.fields, ?_, ?_⟩
  · rw [dotted, spelled, List.cons_append]
  · refine Text.isBlank_of_visible (layout.visible_of_mem_dotted ?_)
    rw [dotted, spelled]
    exact List.mem_append_left _ List.mem_cons_self

theorem packageText_of_plain (layout : Layout) (plain : layout.margin.comment = none) :
    layout.packageText = layout.dotted := by
  rw [packageText, Margin.text, Margin.commentText, plain, List.append_nil,
    Text.trimEnd_append_of_blank _ _ layout.margin.allBlank.isBlank,
    Text.trimEnd_of_visible fun _ inside => layout.visible_of_mem_dotted inside]

theorem packageText_of_comment (layout : Layout) {body : List Char}
    (comment : layout.margin.comment = some body) :
    layout.packageText =
      layout.dotted ++ (layout.margin.blanks ++ '#' :: Text.trimEnd body) := by
  have kept : Text.trimEnd ('#' :: body) = '#' :: Text.trimEnd body :=
    Text.trimEnd_cons_of_not_blank body rfl
  rw [packageText, Margin.text, Margin.commentText, comment, ← List.append_assoc,
    Text.trimEnd_append_of_ne_nil _ (by rw [kept]; exact List.cons_ne_nil _ _), kept,
    List.append_assoc]

theorem exists_packageText (layout : Layout) :
    ∃ first later, layout.packageText = first :: later ∧ Text.isBlank first = false := by
  obtain ⟨first, later, spelled, visible⟩ := layout.exists_dotted
  refine ⟨first, Text.trimEnd (later ++ layout.margin.text), ?_, visible⟩
  rw [packageText, spelled, List.cons_append, Text.trimEnd_cons_of_not_blank _ visible]

theorem trimChars_line (layout : Layout) :
    Text.trimChars layout.line = "package ".toList ++ (layout.gap ++ layout.packageText) := by
  obtain ⟨first, later, spelled, -⟩ := layout.exists_packageText
  have kept : Text.trimEnd (layout.dotted ++ layout.margin.text) ≠ [] := by
    rw [← packageText, spelled]
    exact List.cons_ne_nil _ _
  have start : Text.trimStart layout.line =
      "package ".toList ++ (layout.gap ++ (layout.dotted ++ layout.margin.text)) := by
    rw [line, Text.trimStart_append_of_blank _ _ layout.indented.isBlank]
    rfl
  rw [Text.trimChars, start, ← List.append_assoc, Text.trimEnd_append_of_ne_nil _ kept,
    ← packageText, List.append_assoc]

theorem packageOfLine?_line (layout : Layout) :
    NamedModule.packageOfLine? layout.line = some layout.packageText := by
  obtain ⟨first, later, spelled, visible⟩ := layout.exists_packageText
  have package : Text.trimChars (layout.gap ++ layout.packageText) = layout.packageText := by
    rw [Text.trimChars, Text.trimStart_append_of_blank _ _ layout.parted.isBlank, spelled,
      Text.trimStart_of_not_blank later visible, ← spelled, packageText, Text.trimEnd_trimEnd]
  have starts : "package ".toList.isPrefixOf
      ("package ".toList ++ (layout.gap ++ layout.packageText)) = true :=
    List.isPrefixOf_iff_prefix.mpr (List.prefix_append _ _)
  simp only [NamedModule.packageOfLine?, trimChars_line, starts, if_true, List.drop_left, package]

theorem lineFeed_not_mem_line (layout : Layout) : '\n' ∉ layout.line := by
  have undotted : '\n' ∉ layout.dotted := fun inside =>
    absurd (layout.visible_of_mem_dotted inside).1 (by decide)
  simp only [line, List.mem_append, not_or]
  exact ⟨layout.indented.lineFeed_not_mem, by decide, layout.parted.lineFeed_not_mem, undotted,
    layout.margin.lineFeed_not_mem_text⟩

/-- Line by line, the package is what stands behind the keyword, a comment included. -/
theorem packageOf?_source (layout : Layout) :
    NamedModule.packageOf? layout.source = some (String.ofList layout.packageText) := by
  obtain ⟨first, others, cut, trimmed⟩ : ∃ first others,
      Text.lines (layout.line ++ layout.below) = first :: others ∧
        Text.trimChars first = Text.trimChars layout.line := by
    rcases layout.endsLine with ends | ⟨returns, more, ends⟩
    · have nonempty : layout.line ≠ [] :=
        List.append_ne_nil_of_right_ne_nil _ (List.cons_ne_nil _ _)
      refine ⟨layout.line, [], ?_, rfl⟩
      rw [ends, List.append_nil, Text.lines_eq_singleton layout.lineFeed_not_mem_line nonempty]
    · obtain ⟨first, cut, trimmed⟩ :=
        Text.exists_trimmed_line layout.line more layout.lineFeed_not_mem_line returns
      exact ⟨first, _, ends ▸ cut, trimmed⟩
  have named : NamedModule.packageOfLine? first = some layout.packageText := by
    rw [NamedModule.packageOfLine?_congr trimmed, packageOfLine?_line]
  rw [NamedModule.packageOf?, source, String.toList_ofList, text, NamedModule.findSome?_above, cut,
    List.findSome?_cons, named, Option.map_some]

end Layout

/-! ### Word by word -/

theorem Margin.behindGap_text (margin : Margin) (lines : Nat) {rest : List Char}
    (ends : Token.EndsLine rest) :
    Token.behindGap lines (margin.text ++ rest) = Token.behindGap lines rest := by
  rw [text, List.append_assoc, Token.behindGap_blanks lines margin.allBlank, commentText]
  cases comment : margin.comment with
  | none => rfl
  | some body => exact Token.behindGap_comment lines (margin.inLine body comment) ends

theorem Margin.endsName_text (margin : Margin) {rest : List Char} (ends : Token.EndsLine rest) :
    Token.EndsName (margin.text ++ rest) := by
  have starts : ∀ char ∈ (margin.text ++ rest).head?, char ∈ [' ', '\t', '#', '\n', '\r'] := by
    intro char member
    rw [text, List.append_assoc, commentText] at member
    cases spelled : margin.blanks with
    | cons first later =>
        rw [spelled] at member
        cases member
        have blank := margin.allBlank char (by rw [spelled]; exact List.mem_cons_self)
        rcases blank with rfl | rfl
        · decide
        · decide
    | nil =>
        rw [spelled] at member
        cases comment : margin.comment with
        | some body =>
            rw [comment] at member
            cases member
            decide
        | none =>
            rw [comment] at member
            rcases ends with rfl | ⟨returns, more, rfl⟩
            · cases member
            · cases returns with
              | false =>
                  cases member
                  decide
              | true =>
                  cases member
                  decide
  have allEnd : ([' ', '\t', '#', '\n', '\r'].all fun char =>
      !Token.isNamePart char && char != '(') = true := by
    decide
  intro char member
  have ends := List.all_eq_true.mp allEnd char (starts char member)
  simpa only [Bool.and_eq_true, Bool.not_eq_true', bne_iff_ne] using ends

theorem behindGap_above (above : List EmptyLine) (lines : Nat) (rest : List Char) :
    Token.behindGap lines (above.flatMap EmptyLine.text ++ rest) =
      Token.behindGap (lines + above.length) rest := by
  induction above generalizing lines with
  | nil => rfl
  | cons line others ih =>
      have ends : Token.EndsLine
          (Text.lineEnd line.returns ++ (others.flatMap EmptyLine.text ++ rest)) :=
        .inr ⟨line.returns, _, rfl⟩
      rw [List.flatMap_cons, EmptyLine.text, List.append_assoc, List.append_assoc,
        line.toMargin.behindGap_text lines ends, Token.behindGap_lineEnd, ih, List.length_cons,
        Nat.add_assoc, Nat.add_comm 1]

namespace Layout

/-- The tokens of a source: its package, and whatever the lines behind it say. -/
def headTokens (layout : Layout) : List Token :=
  ⟨.word "package", false, decide (0 < layout.above.length)⟩ ::
    ⟨.word layout.name, false, false⟩ :: fieldTokens layout.fields

theorem scan?_source (layout : Layout) :
    ∃ budget, Token.scan? layout.source.toList =
      (Token.scanFrom budget true 0 (layout.margin.text ++ layout.below)).map
        (layout.headTokens ++ ·) := by
  obtain ⟨nameIsName, fieldsAreNames⟩ := List.forall_mem_cons.mp layout.names
  obtain ⟨tail, margined⟩ : ∃ tail, tail = layout.margin.text ++ layout.below := ⟨_, rfl⟩
  obtain ⟨steps, stepped⟩ : ∃ steps, steps = fieldChars layout.fields ++ tail := ⟨_, rfl⟩
  obtain ⟨package, packaged⟩ : ∃ package,
      package = (' ' :: layout.gap) ++ (layout.name.toList ++ steps) := ⟨_, rfl⟩
  have tailEnds : Token.EndsName tail := margined ▸ layout.margin.endsName_text layout.endsLine
  have stepsEnd : Token.EndsName steps := stepped ▸ Token.endsName_fieldChars _ tailEnds
  have packageEnds : Token.EndsName package := by
    intro char member
    rw [packaged] at member
    cases member
    decide
  have keyword : Token.behindGap 0 layout.text =
      some (layout.above.length, "package".toList ++ package) := by
    have line : layout.line ++ layout.below =
        layout.indent ++ ("package".toList ++ package) := by
      simp only [Layout.line, dotted, packaged, stepped, margined, List.append_assoc,
        List.cons_append]
      rfl
    rw [text, behindGap_above, line, Token.behindGap_blanks _ layout.indented, Nat.zero_add]
    exact Token.behindGap_name _ (by decide) package
  have name : Token.behindGap 0 package = some (0, layout.name.toList ++ steps) := by
    have blank : Token.Blanks (' ' :: layout.gap) :=
      List.forall_mem_cons.mpr ⟨.inl rfl, layout.parted⟩
    rw [packaged, Token.behindGap_blanks 0 blank]
    exact Token.behindGap_name 0 nameIsName steps
  have longer : (layout.name.toList ++ steps).length < package.length := by
    simp only [packaged, List.length_append, List.length_cons]
    omega
  obtain ⟨budget, size⟩ : ∃ budget,
      layout.text.length + 1 = 2 * layout.fields.length + budget + 1 + 1 := by
    have long := Token.length_fieldChars layout.fields fieldsAreNames
    have within : (fieldChars layout.fields).length + "package ".toList.length ≤
        layout.text.length := by
      simp only [text, Layout.line, dotted, List.length_append]
      omega
    have keywordLength : "package ".toList.length = 8 := rfl
    exact ⟨layout.text.length - 1 - 2 * layout.fields.length, by omega⟩
  refine ⟨budget, ?_⟩
  rw [source, String.toList_ofList, Token.scan?, size,
    Token.scanFrom_name (by decide) packageEnds keyword, Bool.false_and,
    Token.scanFrom_name_apart nameIsName stepsEnd name longer, stepped,
    Token.scanFrom_fieldChars fieldsAreNames tailEnds, margined, Option.map_map, Option.map_map]
  rfl

theorem not_joined_tail (layout : Layout) {budget : Nat} {tokens : List Token}
    (scanned : Token.scanFrom budget true 0 (layout.margin.text ++ layout.below) = some tokens) :
    ∀ token ∈ tokens.head?, token.joined = false := by
  refine Token.not_joined_of_scanFrom scanned fun after rest behind nonempty => ?_
  rw [layout.margin.behindGap_text 0 layout.endsLine] at behind
  rcases layout.endsLine with ends | ⟨returns, more, ends⟩
  · rw [ends] at behind
    cases behind
    exact absurd rfl nonempty
  · rw [ends, Token.behindGap_lineEnd] at behind
    have short := Token.length_of_skipGap behind
    have lineEndLength : 0 < (Text.lineEnd returns).length := by
      cases returns with
      | false => decide
      | true => decide
    rw [ends, List.length_append, List.length_append]
    omega

end Layout

theorem readFields_fieldTokens {rest : List Token}
    (apart : ∀ token ∈ rest.head?, token.joined = false) {fields : List String}
    (names : ∀ field ∈ fields, Dialect.plain.name? field = some field) {budget : Nat}
    {found : List String} {behind : List Token}
    (read : readFields .plain (fields.length + budget + 1) (fieldTokens fields ++ rest) =
      some (found, behind)) :
    found = fields := by
  induction fields generalizing found with
  | nil =>
      rw [List.length_nil, Nat.zero_add, fieldTokens, List.flatMap_nil, List.nil_append] at read
      unfold readFields at read
      split at read
      · cases apart _ rfl
      · cases read
      · cases apart _ rfl
      · cases read
        rfl
  | cons field later ih =>
      have fieldName := names field List.mem_cons_self
      have laterNames : ∀ other ∈ later, Dialect.plain.name? other = some other :=
        fun other member => names other (List.mem_cons_of_mem _ member)
      have size : (field :: later).length + budget + 1 = later.length + budget + 1 + 1 := by
        rw [List.length_cons]
        omega
      have spelled : fieldTokens (field :: later) ++ rest =
          ⟨.sign ".", true, false⟩ :: ⟨.word field, true, false⟩ :: (fieldTokens later ++ rest) :=
        rfl
      rw [size, spelled, readFields, fieldName, Option.bind_some] at read
      obtain ⟨⟨others, left⟩, readLater, same⟩ := Option.map_eq_some_iff.mp read
      cases same
      rw [ih laterNames readLater]

/-- Word by word, the package is what is written in the package line. -/
theorem Layout.package_of_parse? (layout : Layout) {read : Source}
    (parsed : Source.parse? layout.source = some read) : read.package = layout.path := by
  obtain ⟨tokens, scanned, understood⟩ := Option.bind_eq_some_iff.mp parsed
  obtain ⟨budget, whole⟩ := layout.scan?_source
  rw [whole] at scanned
  obtain ⟨behind, tail, rfl⟩ := Option.map_eq_some_iff.mp scanned
  obtain ⟨package, left, _, _, _, keyword, named, -⟩ := Source.exists_of_ofTokens? understood
  have plainName : ∀ field ∈ layout.path, Dialect.plain.name? field = some field :=
    fun field member => name?_of_isPlainName (layout.plain field member)
  obtain ⟨nameIsName, fieldsAreNames⟩ := List.forall_mem_cons.mp plainName
  have behindKeyword : package =
      ⟨.word layout.name, false, false⟩ :: (fieldTokens layout.fields ++ behind) :=
    (congrArg Prod.snd (Option.some.inj keyword)).symm
  simp only [behindKeyword, readPath, readName, nameIsName, Option.map_some] at named
  obtain ⟨⟨fields, others⟩, stepsRead, same⟩ := Option.map_eq_some_iff.mp named
  have size : (fieldTokens layout.fields ++ behind).length + 1 =
      layout.fields.length + (layout.fields.length + behind.length) + 1 := by
    rw [List.length_append, fieldTokens_length]
    omega
  rw [size] at stepsRead
  have allSteps := readFields_fieldTokens (layout.not_joined_tail tail) fieldsAreNames stepsRead
  have whole : layout.name :: fields = read.package := congrArg Prod.fst same
  rw [← whole, allSteps, path]

end Turnstile.Policy

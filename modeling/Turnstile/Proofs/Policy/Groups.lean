import Mathlib.Data.List.Nodup
import Turnstile.Proofs.Policy.Rules
set_option autoImplicit false

/-! Which rules a module has. Every rule of a source has a head, which starts with a name, and
the groups of a module are those that its source has rules for, each once. So what stands at a
name in the package of a module is the value of the rule of that name. -/

namespace Turnstile.Policy

/-! ### Heads -/

/-- The rule has a head, and so a name. -/
def RuleText.Headed (rule : RuleText) : Prop := ∃ head : Head, rule.path = head.path

theorem RuleText.Headed.path_ne_nil {rule : RuleText} (headed : rule.Headed) : rule.path ≠ [] := by
  obtain ⟨head, same⟩ := headed
  rw [same, Head.path]
  exact List.cons_ne_nil _ _

theorem headed_of_mem_definitionsOf {head : Head} {keys : List Term}
    {parameters : Option (List Term)} {isMember : Bool} {clauses : List (List Clause)}
    {rule : RuleText} (listed : rule ∈ definitionsOf head.path keys parameters isMember clauses) :
    rule.Headed := by
  obtain ⟨_, -, rfl⟩ := List.mem_map.mp listed
  exact ⟨head, rfl⟩

variable {dialect : Dialect} {tokens rest : List Token} {rules : List RuleText}

theorem headed_of_readMember {head : Head}
    (read : readMember dialect head tokens = some (rules, rest)) : ∀ rule ∈ rules, rule.Headed := by
  unfold readMember at read
  split at read
  · cases read
  · obtain ⟨_, -, same⟩ := Option.map_eq_some_iff.mp read
    cases same
    exact fun rule listed => headed_of_mem_definitionsOf listed

theorem headed_of_readRest {head : Head}
    (read : readRest dialect head tokens = some (rules, rest)) : ∀ rule ∈ rules, rule.Headed := by
  unfold readRest at read
  split at read
  · cases read
  · obtain ⟨_, -, same⟩ := Option.map_eq_some_iff.mp read
    cases same
    exact fun rule listed => headed_of_mem_definitionsOf listed
  · split at read
    · obtain ⟨_, -, same⟩ := Option.map_eq_some_iff.mp read
      cases same
      exact fun rule listed => headed_of_mem_definitionsOf listed
    · split at read
      · cases read
        exact fun rule listed => headed_of_mem_definitionsOf listed
      · cases read

theorem headed_of_readRule (read : readRule dialect tokens = some (rules, rest)) :
    ∀ rule ∈ rules, rule.Headed := by
  unfold readRule at read
  split at read
  · split at read
    · cases read
    · rename_i head _ _
      split at read
      · cases read
      · obtain ⟨_, -, same⟩ := Option.map_eq_some_iff.mp read
        cases same
        intro rule listed
        rw [List.mem_singleton.mp listed]
        exact ⟨head, rfl⟩
  · split at read
    · cases read
    · split at read
      · exact headed_of_readMember read
      · exact headed_of_readRest read

theorem headed_of_readRules {budget : Nat} (read : readRules dialect budget tokens = some rules) :
    ∀ rule ∈ rules, rule.Headed := by
  induction budget generalizing tokens rules with
  | zero =>
      cases tokens with
      | nil =>
          cases read
          exact fun rule listed => absurd listed List.not_mem_nil
      | cons token others => cases read
  | succ budget ih =>
      cases tokens with
      | nil =>
          cases read
          exact fun rule listed => absurd listed List.not_mem_nil
      | cons token others =>
          rw [readRules] at read
          · split at read
            · cases read
            · rename_i first behind firstRead
              obtain ⟨later, laterRead, same⟩ := Option.map_eq_some_iff.mp read
              subst same
              intro rule listed
              rcases List.mem_append.mp listed with early | late
              · exact headed_of_readRule firstRead rule early
              · exact ih laterRead rule late
          · exact List.cons_ne_nil _ _

/-! ### Groups -/

namespace RuleText

variable {names : Names} {text : RuleText}

theorem path_of_addTo? {rule extended : RuleGroup} (added : text.addTo? names rule = some extended) :
    extended.path = rule.path := by
  cases text with
  | default path value =>
      simp only [addTo?] at added
      split at added
      · obtain ⟨_, -, rfl⟩ := Option.map_eq_some_iff.mp added
        rfl
      · cases added
  | definition definition =>
      simp only [addTo?, Option.bind_eq_bind, Option.bind_eq_some_iff] at added
      obtain ⟨_, -, joined⟩ := added
      split at joined
      · cases joined
        rfl
      · obtain ⟨_, -, same⟩ := Option.bind_eq_some_iff.mp joined
        cases same
        rfl

/-- Where a rule is inserted, its group joins those that are there, unless it is one of them. -/
theorem paths_of_insertInto? {groups extended : List RuleGroup}
    (inserted : text.insertInto? names groups = some extended) :
    extended.map RuleGroup.path = groups.map RuleGroup.path ∧ text.path ∈ groups.map RuleGroup.path ∨
      extended.map RuleGroup.path = groups.map RuleGroup.path ++ [text.path] ∧
        text.path ∉ groups.map RuleGroup.path := by
  induction groups generalizing extended with
  | nil =>
      obtain ⟨group, added, rfl⟩ := Option.map_eq_some_iff.mp inserted
      refine .inr ⟨?_, List.not_mem_nil⟩
      rw [List.map_singleton, path_of_addTo? added]
      rfl
  | cons first later ih =>
      rw [insertInto?] at inserted
      split at inserted
      · rename_i same
        obtain ⟨group, added, rfl⟩ := Option.map_eq_some_iff.mp inserted
        refine .inl ⟨?_, ?_⟩
        · rw [List.map_cons, List.map_cons, path_of_addTo? added]
        · rw [List.map_cons, same]
          exact List.mem_cons_self
      · rename_i different
        obtain ⟨others, insertedLater, rfl⟩ := Option.map_eq_some_iff.mp inserted
        rcases ih insertedLater with ⟨same, member⟩ | ⟨longer, absent⟩
        · exact .inl ⟨by rw [List.map_cons, List.map_cons, same], List.mem_cons_of_mem _ member⟩
        · refine .inr ⟨by rw [List.map_cons, List.map_cons, longer, List.cons_append], ?_⟩
          rw [List.map_cons, List.mem_cons, not_or]
          exact ⟨fun same => different same.symm, absent⟩

end RuleText

namespace Source

/-- What a source is read from: its package behind the keyword, and its rules at the end. -/
theorem exists_of_ofTokens? {tokens : List Token} {read : Source}
    (understood : ofTokens? tokens = some read) :
    ∃ package behind dialect budget rest,
      readWord "package" tokens = some ((), package) ∧
        readPath .plain package = some (read.package, behind) ∧
        readRules dialect budget rest = some read.rules := by
  simp only [ofTokens?, Option.bind_eq_bind, Option.bind_eq_some_iff, Prod.exists] at understood
  obtain ⟨_, package, keyword, path, behind, named, dialect, imports, rest, -, rules, ruled, same⟩ :=
    understood
  cases same
  exact ⟨package, behind, dialect, _, rest, keyword, named, ruled⟩

theorem package_ne_nil {text : String} {read : Source} (parsed : parse? text = some read) :
    read.package ≠ [] := by
  obtain ⟨tokens, -, understood⟩ := Option.bind_eq_some_iff.mp parsed
  obtain ⟨package, _, _, _, _, -, named, -⟩ := exists_of_ofTokens? understood
  unfold readPath at named
  split at named
  · cases named
  · obtain ⟨_, -, same⟩ := Option.map_eq_some_iff.mp named
    have started : _ :: _ = read.package := congrArg Prod.fst same
    rw [← started]
    exact List.cons_ne_nil _ _

theorem paths_of_groups? {names : Names} {groups extended : List RuleGroup}
    {texts : List RuleText} (grouped : groups? names groups texts = some extended)
    (once : (groups.map RuleGroup.path).Nodup) :
    (extended.map RuleGroup.path).Nodup ∧
      ∀ path, path ∈ extended.map RuleGroup.path ↔
        path ∈ groups.map RuleGroup.path ∨ path ∈ texts.map RuleText.path := by
  induction texts generalizing groups with
  | nil =>
      cases grouped
      refine ⟨once, fun path => ?_⟩
      rw [List.map_nil, or_iff_left List.not_mem_nil]
  | cons text later ih =>
      rw [groups?] at grouped
      split at grouped
      · rename_i inserted insertedText
        rcases RuleText.paths_of_insertInto? insertedText with ⟨same, member⟩ | ⟨longer, absent⟩
        · obtain ⟨nodup, listed⟩ := ih grouped (same ▸ once)
          refine ⟨nodup, fun path => ?_⟩
          rw [listed, same, List.map_cons, List.mem_cons]
          constructor
          · rintro (old | new)
            · exact .inl old
            · exact .inr (.inr new)
          · rintro (old | rfl | new)
            · exact .inl old
            · exact .inl member
            · exact .inr new
        · have onceMore : (inserted.map RuleGroup.path).Nodup := by
            rw [longer, List.perm_append_comm.nodup_iff]
            exact List.nodup_cons.mpr ⟨absent, once⟩
          obtain ⟨nodup, listed⟩ := ih grouped onceMore
          refine ⟨nodup, fun path => ?_⟩
          rw [listed, longer, List.map_cons, List.mem_cons, List.mem_append, List.mem_singleton,
            or_assoc]
      · cases grouped

/-- The rules of a module are those that its source speaks of, each once. -/
theorem paths_of_link? {source : Source} {module : Module}
    (linked : source.link? = some module) :
    module.package = source.package ∧ (module.rules.map RuleGroup.path).Nodup ∧
      ∀ path, path ∈ module.rules.map RuleGroup.path ↔ path ∈ source.rules.map RuleText.path := by
  obtain ⟨groups, grouped, rfl⟩ := Option.map_eq_some_iff.mp linked
  obtain ⟨nodup, listed⟩ := paths_of_groups? grouped List.nodup_nil
  refine ⟨rfl, nodup, fun path => ?_⟩
  rw [listed, List.map_nil, or_iff_right List.not_mem_nil]

end Source

/-! ### Rules at their paths -/

namespace Module

/-- Every rule has a name and is there once. -/
structure Orderly (module : Module) : Prop where
  headed : ∀ group ∈ module.rules, group.path ≠ []
  once : (module.rules.map RuleGroup.path).Nodup

variable {module : Module} {valueOf : RuleGroup → Outcome Value}

theorem orderly_of_parse? {text : String} {read : Source} (parsed : Source.parse? text = some read)
    (linked : read.link? = some module) : module.Orderly := by
  obtain ⟨tokens, -, understood⟩ := Option.bind_eq_some_iff.mp parsed
  obtain ⟨_, _, _, _, _, -, -, ruled⟩ := Source.exists_of_ofTokens? understood
  obtain ⟨-, once, listed⟩ := Source.paths_of_link? linked
  refine ⟨fun group member => ?_, once⟩
  obtain ⟨rule, ruleListed, same⟩ :=
    List.mem_map.mp ((listed group.path).mp (List.mem_map_of_mem member))
  rw [← same]
  exact (headed_of_readRules ruled rule ruleListed).path_ne_nil

theorem rule_of_document {group : RuleGroup} (listed : group ∈ module.documents) :
    group ∈ module.rules :=
  (List.mem_filter.mp listed).1

theorem eq_singleton_of_isPrefixOf {path : List String} {rule : String} (nonempty : path ≠ [])
    (starts : path.isPrefixOf [rule] = true) : path = [rule] := by
  have prefixed := List.isPrefixOf_iff_prefix.mp starts
  rcases List.prefix_cons_iff.mp prefixed with empty | ⟨rest, spelled, behind⟩
  · exact absurd empty nonempty
  · rw [spelled, List.prefix_nil.mp behind]

theorem document_named (orderly : module.Orderly) {group : RuleGroup} {rule : String}
    (listed : group ∈ module.documents) (named : group.path = [rule]) :
    module.document valueOf (module.package ++ [rule]) = valueOf group := by
  have fits : group.path.isPrefixOf group.path = true :=
    List.isPrefixOf_iff_prefix.mpr List.prefix_rfl
  have covered : (module.documents.find? fun other => other.path.isPrefixOf group.path).isSome :=
    List.find?_isSome.mpr ⟨group, listed, fits⟩
  obtain ⟨other, found⟩ := Option.isSome_iff_exists.mp covered
  have otherListed := List.mem_of_find?_eq_some found
  have otherPath : other.path = group.path := by
    have starts := List.find?_some found
    rw [named] at starts ⊢
    exact eq_singleton_of_isPrefixOf (orderly.headed other (rule_of_document otherListed)) starts
  have same : other = group := List.inj_on_of_nodup_map orderly.once
    (rule_of_document otherListed) (rule_of_document listed) otherPath
  rw [← named]
  exact document_rule module group valueOf (same ▸ found)

theorem document_absent (orderly : module.Orderly) {rule : String}
    (absent : ∀ group ∈ module.documents, group.path.head? ≠ some rule) :
    module.document valueOf (module.package ++ [rule]) = .undefined := by
  have noneCovers : (module.documents.find? fun group => group.path.isPrefixOf [rule]) = none := by
    refine List.find?_eq_none.mpr fun group listed starts => absent group listed ?_
    rw [eq_singleton_of_isPrefixOf (orderly.headed group (rule_of_document listed)) starts]
    rfl
  have noneBelow : (module.documents.filter fun group => [rule].isPrefixOf group.path) = [] := by
    refine List.filter_eq_nil_iff.mpr fun group listed starts => absent group listed ?_
    obtain ⟨rest, spelled⟩ := List.isPrefixOf_iff_prefix.mp starts
    rw [← spelled]
    rfl
  have inside : module.package.isPrefixOf (module.package ++ [rule]) = true :=
    List.isPrefixOf_iff_prefix.mpr (List.prefix_append _ _)
  rw [document, if_pos inside, List.drop_left, within, noneCovers]
  simp only [noneBelow]
  rfl

theorem gather_ne_undefined (depth : Nat) (whole : Value) (rules : List RuleGroup) :
    gather depth valueOf whole rules ≠ .undefined := by
  induction rules generalizing whole with
  | nil => exact fun same => by cases same
  | cons rule rest ih =>
      rw [gather]
      cases valueOf rule with
      | fault cause => exact fun same => by cases same
      | undefined => exact ih whole
      | value value =>
          dsimp only
          split
          · exact ih _
          · exact fun same => by cases same

theorem document_package (orderly : module.Orderly) :
    module.document valueOf (module.package ++ []) ≠ .undefined := by
  have noneCovers : (module.documents.find? fun group => group.path.isPrefixOf []) = none := by
    refine List.find?_eq_none.mpr fun group listed starts => ?_
    exact orderly.headed group (rule_of_document listed)
      (List.prefix_nil.mp (List.isPrefixOf_iff_prefix.mp starts))
  have inside : module.package.isPrefixOf (module.package ++ []) = true :=
    List.isPrefixOf_iff_prefix.mpr (List.prefix_append _ _)
  rw [document, if_pos inside, List.drop_left, within, noneCovers]
  simp only [List.isEmpty_nil, Bool.not_true, Bool.and_false, Bool.false_eq_true, if_false]
  exact gather_ne_undefined _ _ _

end Module

end Turnstile.Policy

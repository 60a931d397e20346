import Mathlib.Data.List.Induction
import Mathlib.Data.List.Nodup
import Turnstile.KeyStore
import Turnstile.Proofs.Rsa.KeyFile
set_option autoImplicit false

/-! Loading of key stores. Each entry is kept under its own identifier, or nothing is kept and the
first entry that does not fit tells why. The order of the entries makes no difference to the store. -/

namespace Turnstile

theorem KeyPair.kid_of_ofPem {kid : String} {text : Bytes} {pair : KeyPair}
    (accepted : ofPem kid text = .ok pair) : pair.kid = kid := by
  unfold ofPem at accepted
  split at accepted
  · unfold ofBlock at accepted
    split at accepted
    · split at accepted <;> cases accepted
      rfl
    · split at accepted
      · split at accepted <;> cases accepted
        rfl
      · cases accepted
  · cases accepted

namespace KeyStore

theorem get_eq_ok_iff {store : KeyStore} {kid : String} {pair : KeyPair} :
    store.get kid = .ok pair ↔ store.get? kid = some pair := by
  unfold get
  cases store.get? kid <;> simp

theorem get?_eq_none_iff {store : KeyStore} {kid : String} :
    store.get? kid = none ↔ kid ∉ store.kids := by
  rw [← contains_iff, contains, Option.not_isSome_iff_eq_none]

/-- Entries that fit into one store: each holds a key, and no identifier is given twice. -/
structure Loadable (entries : List (String × Bytes)) : Prop where
  accepted : ∀ kid text, (kid, text) ∈ entries → ∃ pair, KeyPair.ofPem kid text = .ok pair
  distinct : (entries.map Prod.fst).Nodup

/-- Why an entry does not fit in after some others. Whether it holds a key is asked first. -/
inductive Rejected (before : List (String × Bytes)) : String × Bytes → KeyError → Prop where
  | refused {kid : String} {text : Bytes} {rejection : KeyRejection}
      (refused : KeyPair.ofPem kid text = .error rejection) :
      Rejected before (kid, text) (.invalid kid rejection.message)
  | repeated {kid : String} {text : Bytes} {pair : KeyPair}
      (accepted : KeyPair.ofPem kid text = .ok pair) (taken : kid ∈ before.map Prod.fst) :
      Rejected before (kid, text) (.duplicate kid)

section Entries

variable {before after : List (String × Bytes)} {entry : String × Bytes} {error : KeyError}

theorem loadable_nil : Loadable [] := ⟨by simp, List.nodup_nil⟩

theorem Loadable.of_append (loadable : Loadable (before ++ after)) : Loadable before := by
  constructor
  · intro kid text member
    exact loadable.accepted kid text (List.mem_append_left after member)
  · have distinct := loadable.distinct
    rw [List.map_append] at distinct
    exact distinct.of_append_left

theorem Loadable.perm (loadable : Loadable before) (permuted : before.Perm after) :
    Loadable after := by
  constructor
  · intro kid text member
    exact loadable.accepted kid text (permuted.mem_iff.mpr member)
  · exact (permuted.map Prod.fst).nodup_iff.mp loadable.distinct

theorem Rejected.not_loadable (rejected : Rejected before entry error) :
    ¬ Loadable (before ++ entry :: after) := by
  intro loadable
  cases rejected with
  | refused refused =>
      obtain ⟨_, accepted⟩ := loadable.accepted _ _ (List.mem_append_right before List.mem_cons_self)
      cases refused.symm.trans accepted
  | repeated accepted taken =>
      have distinct := loadable.distinct
      rw [List.map_append] at distinct
      exact distinct.disjoint taken List.mem_cons_self

theorem Loadable.snoc_or_rejected (loadable : Loadable before) (entry : String × Bytes) :
    Loadable (before ++ [entry]) ∨ ∃ error, Rejected before entry error := by
  obtain ⟨kid, text⟩ := entry
  cases judged : KeyPair.ofPem kid text with
  | error rejection => exact Or.inr ⟨_, .refused judged⟩
  | ok pair =>
      by_cases taken : kid ∈ before.map Prod.fst
      · exact Or.inr ⟨_, .repeated judged taken⟩
      · refine Or.inl ⟨?_, ?_⟩
        · intro otherKid otherText member
          rcases List.mem_append.mp member with earlier | last
          · exact loadable.accepted otherKid otherText earlier
          · cases List.mem_singleton.mp last
            exact ⟨pair, judged⟩
        · rw [List.map_append, List.map_singleton, List.nodup_append]
          refine ⟨loadable.distinct, List.nodup_singleton _, ?_⟩
          intro earlier member last same
          rw [List.mem_singleton.mp same]
          rintro rfl
          exact taken member

/-- All entries fit into one store, or there is a first one that does not. -/
theorem loadable_or_rejected (entries : List (String × Bytes)) :
    Loadable entries ∨ ∃ before entry after error,
      entries = before ++ entry :: after ∧ Loadable before ∧ Rejected before entry error := by
  induction entries using List.reverseRecOn with
  | nil => exact Or.inl loadable_nil
  | append_singleton earlier last ih =>
      rcases ih with loadable | ⟨before, entry, after, error, rfl, loadable, rejected⟩
      · rcases loadable.snoc_or_rejected last with fits | ⟨error, rejected⟩
        · exact Or.inl fits
        · exact Or.inr ⟨earlier, last, [], error, rfl, loadable, rejected⟩
      · exact Or.inr ⟨before, entry, after ++ [last], error, by simp, loadable, rejected⟩

end Entries

/-! ### The pairs under construction -/

theorem insert?_eq_none_iff {pair : KeyPair} {pairs : List KeyPair}
    (sorted : pairs.Pairwise fun earlier later => earlier.kid < later.kid) :
    insert? pair pairs = none ↔ ∃ other ∈ pairs, other.kid = pair.kid := by
  induction pairs with
  | nil => simp [insert?]
  | cons first rest ih =>
      obtain ⟨firstBelow, restSorted⟩ := List.pairwise_cons.mp sorted
      unfold insert?
      split
      · rename_i below
        refine iff_of_false (Option.some_ne_none _) ?_
        rintro ⟨other, member, same⟩
        rcases List.mem_cons.mp member with rfl | inRest
        · exact String.lt_irrefl _ (same ▸ below)
        · exact String.lt_irrefl _ (String.lt_trans below (same ▸ firstBelow other inRest))
      · rename_i notBelow
        split
        · rename_i above
          have apart : first.kid ≠ pair.kid := fun same => String.lt_irrefl _ (same ▸ above)
          rw [Option.map_eq_none_iff, ih restSorted]
          simp [apart]
        · rename_i notAbove
          have same : first.kid = pair.kid := String.le_antisymm notBelow notAbove
          exact iff_of_true rfl ⟨first, List.mem_cons_self, same⟩

/-- Sorted pairs that are just what some entries hold, each under the identifier of its entry. -/
structure Holds (pairs : List KeyPair) (entries : List (String × Bytes)) : Prop where
  loadable : Loadable entries
  sorted : pairs.Pairwise fun earlier later => earlier.kid < later.kid
  mem_iff : ∀ pair, pair ∈ pairs ↔
    ∃ text, (pair.kid, text) ∈ entries ∧ KeyPair.ofPem pair.kid text = .ok pair

namespace Holds

variable {pairs others : List KeyPair} {before entries : List (String × Bytes)}

theorem nothing : Holds [] [] := ⟨loadable_nil, List.Pairwise.nil, by simp⟩

theorem kid_mem_iff (holds : Holds pairs entries) (kid : String) :
    (∃ pair ∈ pairs, pair.kid = kid) ↔ kid ∈ entries.map Prod.fst := by
  constructor
  · rintro ⟨pair, member, rfl⟩
    obtain ⟨text, listed, _⟩ := (holds.mem_iff pair).mp member
    exact List.mem_map_of_mem listed
  · intro listed
    obtain ⟨⟨_, text⟩, member, rfl⟩ := List.mem_map.mp listed
    obtain ⟨pair, accepted⟩ := holds.loadable.accepted _ _ member
    obtain rfl := KeyPair.kid_of_ofPem accepted
    exact ⟨pair, (holds.mem_iff pair).mpr ⟨text, member, accepted⟩, rfl⟩

theorem unique_pair (holds : Holds pairs entries) {kid : String} {text : Bytes} {pair other : KeyPair}
    (listed : (kid, text) ∈ entries) (accepted : KeyPair.ofPem kid text = .ok pair)
    (held : other ∈ pairs) (named : other.kid = kid) : other = pair := by
  subst named
  obtain ⟨otherText, otherListed, otherAccepted⟩ := (holds.mem_iff other).mp held
  cases List.inj_on_of_nodup_map holds.loadable.distinct listed otherListed rfl
  exact Except.ok.inj (otherAccepted.symm.trans accepted)

theorem perm {permuted : List (String × Bytes)} (holds : Holds pairs entries)
    (permutation : entries.Perm permuted) : Holds pairs permuted := by
  refine ⟨holds.loadable.perm permutation, holds.sorted, ?_⟩
  intro pair
  simp only [holds.mem_iff, permutation.mem_iff]

theorem unique (holds : Holds pairs entries) (othersHold : Holds others entries) :
    pairs = others := by
  have nodup : ∀ {pairs : List KeyPair},
      (pairs.Pairwise fun earlier later => earlier.kid < later.kid) → pairs.Nodup := by
    intro pairs sorted
    refine List.Pairwise.imp ?_ sorted
    rintro pair _ below rfl
    exact String.lt_irrefl _ below
  have permuted : pairs.Perm others := by
    rw [List.perm_ext_iff_of_nodup (nodup holds.sorted) (nodup othersHold.sorted)]
    intro pair
    rw [holds.mem_iff, othersHold.mem_iff]
  refine permuted.eq_of_pairwise ?_ holds.sorted othersHold.sorted
  intro pair other _ _ below above
  exact absurd (String.lt_trans below above) (String.lt_irrefl _)

theorem load_fitting {entry : String × Bytes} (holds : Holds pairs before)
    (fits : Loadable (before ++ [entry])) :
    ∃ inserted, Holds inserted (before ++ [entry]) ∧
      ∀ after, load pairs (entry :: after) = load inserted after := by
  obtain ⟨kid, text⟩ := entry
  obtain ⟨pair, accepted⟩ := fits.accepted kid text (List.mem_append_right before
    List.mem_cons_self)
  have named := KeyPair.kid_of_ofPem accepted
  cases placed : insert? pair pairs with
  | none =>
      have taken := (holds.kid_mem_iff _).mp ((insert?_eq_none_iff holds.sorted).mp placed)
      exact absurd fits (Rejected.repeated accepted (named ▸ taken)).not_loadable
  | some inserted =>
      refine ⟨inserted, ⟨fits, sorted_insert? placed holds.sorted, ?_⟩, ?_⟩
      · intro other
        rw [mem_insert? placed, holds.mem_iff]
        constructor
        · rintro (rfl | ⟨otherText, listed, held⟩)
          · exact ⟨text, named ▸ List.mem_append_right before List.mem_cons_self, named ▸ accepted⟩
          · exact ⟨otherText, List.mem_append_left _ listed, held⟩
        · rintro ⟨otherText, listed, held⟩
          rcases List.mem_append.mp listed with earlier | last
          · exact Or.inr ⟨otherText, earlier, held⟩
          · obtain ⟨rfl, rfl⟩ := Prod.mk.inj (List.mem_singleton.mp last)
            exact Or.inl (Except.ok.inj (held.symm.trans accepted))
      · intro after
        simp only [load, accepted, placed]

theorem load_append (holds : Holds pairs before) (middle : List (String × Bytes))
    (fits : Loadable (before ++ middle)) :
    ∃ loaded, Holds loaded (before ++ middle) ∧
      ∀ after, load pairs (middle ++ after) = load loaded after := by
  induction middle generalizing pairs before with
  | nil => exact ⟨pairs, by rwa [List.append_nil], fun _ => rfl⟩
  | cons entry rest ih =>
      rw [List.append_cons] at fits ⊢
      obtain ⟨inserted, holdsEntry, loadEntry⟩ := holds.load_fitting fits.of_append
      obtain ⟨loaded, holdsRest, loadRest⟩ := ih holdsEntry fits
      exact ⟨loaded, holdsRest, fun after => (loadEntry _).trans (loadRest after)⟩

theorem load_rejected {entry : String × Bytes} {error : KeyError} (holds : Holds pairs before)
    (rejected : Rejected before entry error) (after : List (String × Bytes)) :
    load pairs (entry :: after) = .error error := by
  cases rejected with
  | refused refused => simp only [load, refused]
  | @repeated kid text pair accepted taken =>
      have placed : insert? pair pairs = none := by
        rw [insert?_eq_none_iff holds.sorted, holds.kid_mem_iff, KeyPair.kid_of_ofPem accepted]
        exact taken
      simp only [load, accepted, placed]

end Holds

/-! ### The whole store -/

section Store

variable {entries : List (String × Bytes)} {store : KeyStore}

theorem ofEntries_of_rejected {before after : List (String × Bytes)} {entry : String × Bytes}
    {error : KeyError} (loadable : Loadable before) (rejected : Rejected before entry error) :
    ofEntries (before ++ entry :: after) = .error error := by
  obtain ⟨loaded, holds, run⟩ := Holds.nothing.load_append before loadable
  have failed : load [] (before ++ entry :: after) = .error error := by
    rw [run, holds.load_rejected rejected]
  unfold ofEntries
  split
  · rename_i success
    cases success.symm.trans failed
    rfl
  · rename_i success
    cases success.symm.trans failed

theorem ofEntries_of_loadable (filled : entries ≠ []) (loadable : Loadable entries) :
    ∃ store, ofEntries entries = .ok store ∧ Holds store.pairs entries := by
  obtain ⟨loaded, holds, run⟩ := Holds.nothing.load_append entries loadable
  have succeeded : load [] entries = .ok loaded := by
    rw [← List.append_nil entries, run]
    rfl
  have nonempty : loaded ≠ [] := by
    rintro rfl
    obtain ⟨entry, member⟩ := List.exists_mem_of_ne_nil entries filled
    obtain ⟨_, held, _⟩ := (holds.kid_mem_iff entry.1).mpr (List.mem_map_of_mem member)
    cases held
  refine ⟨⟨loaded, holds.sorted, nonempty⟩, ?_, holds⟩
  unfold ofEntries
  split
  · rename_i success
    cases success.symm.trans succeeded
  · rename_i success
    cases success.symm.trans succeeded
    exact dif_neg nonempty

theorem ofEntries_of_holds (holds : Holds store.pairs entries) : ofEntries entries = .ok store := by
  have filled : entries ≠ [] := by
    rintro rfl
    obtain ⟨pair, member⟩ := List.exists_mem_of_ne_nil store.pairs store.nonempty
    obtain ⟨_, listed, _⟩ := (holds.mem_iff pair).mp member
    cases listed
  obtain ⟨⟨others, _, _⟩, made, othersHold⟩ := ofEntries_of_loadable filled holds.loadable
  obtain ⟨pairs, _, _⟩ := store
  obtain rfl : others = pairs := othersHold.unique holds
  exact made

/-- What can come of some entries. -/
inductive Loads (entries : List (String × Bytes)) : Except KeyError KeyStore → Prop where
  | made {store : KeyStore} (filled : entries ≠ []) (holds : Holds store.pairs entries) :
      Loads entries (.ok store)
  | nothing (empty : entries = []) : Loads entries (.error .empty)
  | rejected {before after : List (String × Bytes)} {entry : String × Bytes} {error : KeyError}
      (earliest : entries = before ++ entry :: after) (loadable : Loadable before)
      (rejected : Rejected before entry error) : Loads entries (.error error)

theorem loads_ofEntries (entries : List (String × Bytes)) : Loads entries (ofEntries entries) := by
  rcases loadable_or_rejected entries with
    loadable | ⟨before, entry, after, error, rfl, loadable, rejected⟩
  · by_cases filled : entries = []
    · subst filled
      exact .nothing rfl
    · obtain ⟨store, made, holds⟩ := ofEntries_of_loadable filled loadable
      rw [made]
      exact .made filled holds
  · rw [ofEntries_of_rejected loadable rejected]
    exact .rejected rfl loadable rejected

theorem holds_of_ofEntries (made : ofEntries entries = .ok store) :
    entries ≠ [] ∧ Holds store.pairs entries := by
  have loads := loads_ofEntries entries
  rw [made] at loads
  cases loads with
  | made filled holds => exact ⟨filled, holds⟩

end Store

/-- A store knows the identifiers of some entries and no others, and answers every question about one
of them from the key in its own entry. -/
structure Faithful (store : KeyStore) (entries : List (String × Bytes)) : Prop where
  listed : ∀ kid text, (kid, text) ∈ entries → ∃ pair, KeyPair.ofPem kid text = .ok pair ∧
    pair.kid = kid ∧ store.get kid = .ok pair ∧ store.publicKey kid = .ok pair.publicKey ∧
      store.publicPem kid = .ok pair.publicPem
  unlisted : ∀ kid, kid ∉ entries.map Prod.fst → store.get kid = .error (.unknown kid) ∧
    store.publicKey kid = .error (.unknown kid) ∧ store.publicPem kid = .error (.unknown kid)
  contains : ∀ kid, store.contains kid = true ↔ kid ∈ entries.map Prod.fst
  kids : ∀ kid, kid ∈ store.kids ↔ kid ∈ entries.map Prod.fst
  sorted : store.kids.Pairwise (· < ·)

theorem Holds.faithful {store : KeyStore} {entries : List (String × Bytes)}
    (holds : Holds store.pairs entries) : store.Faithful entries := by
  have kids : ∀ kid, kid ∈ store.kids ↔ kid ∈ entries.map Prod.fst := by
    intro kid
    rw [KeyStore.kids, List.mem_map, holds.kid_mem_iff]
  have contains : ∀ kid, store.contains kid = true ↔ kid ∈ entries.map Prod.fst := by
    intro kid
    rw [contains_iff, kids]
  refine ⟨?listed, ?unlisted, contains, kids, store.sorted_kids⟩
  case listed =>
    intro kid text member
    obtain ⟨pair, accepted⟩ := holds.loadable.accepted kid text member
    obtain ⟨other, found⟩ := Option.isSome_iff_exists.mp
      ((contains kid).mpr (List.mem_map_of_mem member))
    obtain ⟨held, named⟩ := mem_of_get? found
    obtain rfl := holds.unique_pair member accepted held named
    have got : store.get kid = .ok other := get_eq_ok_iff.mpr found
    refine ⟨other, accepted, named, got, ?_, ?_⟩
    · rw [publicKey, got]
      rfl
    · rw [publicPem, got]
      rfl
  case unlisted =>
    intro kid unlisted
    have missing : store.get? kid = none := get?_eq_none_iff.mpr (mt (kids kid).mp unlisted)
    have got : store.get kid = .error (.unknown kid) := by rw [get, missing]
    refine ⟨got, ?_, ?_⟩
    · rw [publicKey, got]
      rfl
    · rw [publicPem, got]
      rfl

/-- A store is made exactly of entries that fit into one, and it is faithful to them in any order.
Otherwise there are no entries, or the first one that does not fit in tells what is wrong. -/
theorem ofEntries_all_or_nothing (entries : List (String × Bytes)) :
    ((∃ store, ofEntries entries = .ok store) ↔ entries ≠ [] ∧ Loadable entries) ∧
    (∀ store, ofEntries entries = .ok store → store.Faithful entries ∧
      ∀ permuted, entries.Perm permuted → ofEntries permuted = .ok store) ∧
    ∀ error, ofEntries entries = .error error ↔
      (error = .empty ∧ entries = []) ∨ ∃ before entry after,
        entries = before ++ entry :: after ∧ Loadable before ∧ Rejected before entry error := by
  refine ⟨?made, ?faithful, ?failed⟩
  case made =>
    constructor
    · rintro ⟨store, made⟩
      have loads := loads_ofEntries entries
      rw [made] at loads
      cases loads with
      | made filled holds => exact ⟨filled, holds.loadable⟩
    · rintro ⟨filled, loadable⟩
      obtain ⟨store, made, _⟩ := ofEntries_of_loadable filled loadable
      exact ⟨store, made⟩
  case faithful =>
    intro store made
    have loads := loads_ofEntries entries
    rw [made] at loads
    cases loads with
    | made filled holds =>
        exact ⟨holds.faithful, fun _ permutation => ofEntries_of_holds (holds.perm permutation)⟩
  case failed =>
    intro error
    constructor
    · intro failed
      have loads := loads_ofEntries entries
      rw [failed] at loads
      cases loads with
      | nothing empty => exact Or.inl ⟨rfl, empty⟩
      | rejected earliest loadable rejected =>
          exact Or.inr ⟨_, _, _, earliest, loadable, rejected⟩
    · rintro (⟨rfl, rfl⟩ | ⟨before, entry, after, rfl, loadable, rejected⟩)
      · rfl
      · exact ofEntries_of_rejected loadable rejected

/-- The files that the pairs of a store are kept in. -/
def files (store : KeyStore) : List (String × Bytes) :=
  store.pairs.map fun pair => (pair.kid, pair.file)

theorem holds_files (store : KeyStore) : Holds store.pairs store.files := by
  have sameKids : store.files.map Prod.fst = store.kids := by
    rw [files, List.map_map]
    rfl
  refine ⟨⟨?accepted, ?distinct⟩, store.sorted, ?members⟩
  case accepted =>
    intro kid text member
    obtain ⟨pair, _, same⟩ := List.mem_map.mp member
    cases same
    exact ⟨pair, pair.ofPem_file⟩
  case distinct =>
    rw [sameKids]
    refine List.Pairwise.imp ?_ store.sorted_kids
    rintro kid _ below rfl
    exact String.lt_irrefl _ below
  case members =>
    intro pair
    constructor
    · intro member
      exact ⟨pair.file, List.mem_map.mpr ⟨pair, member, rfl⟩, pair.ofPem_file⟩
    · rintro ⟨text, listed, accepted⟩
      obtain ⟨other, member, same⟩ := List.mem_map.mp listed
      obtain ⟨named, rfl⟩ := Prod.mk.inj same
      rw [← named, other.ofPem_file] at accepted
      cases accepted
      exact member

theorem ofEntries_files (store : KeyStore) : ofEntries store.files = .ok store :=
  ofEntries_of_holds store.holds_files

end KeyStore

end Turnstile

import Mathlib.Data.List.TakeWhile
import Turnstile.Proofs.Credential.Signing
import Turnstile.Proofs.KeyStore
set_option autoImplicit false

/-! Key directories. Which entries are key files is a matter of their own names and contents, and
neither the order of a listing nor anything else in the directory has a say in the store. -/

namespace Turnstile

/-- A file named by an identifier and the extension of key files, in just this letter case. -/
structure DirectoryEntry.HoldsKey (entry : DirectoryEntry) (kid : String) (text : Bytes) :
    Prop where
  stem : kid ≠ ""
  named : entry.name = kid ++ ".pem"
  content : entry.content = some text

namespace Directory

theorem splitExtension?_append {stem extension : List Char} (filled : stem ≠ [])
    (plain : '.' ∉ extension) :
    splitExtension? (stem ++ '.' :: extension) = some (stem, extension) := by
  have passed : ∀ letter ∈ extension.reverse, (decide (letter ≠ '.')) = true := by
    intro letter member
    rw [decide_eq_true_iff]
    rintro rfl
    exact plain (List.mem_reverse.mp member)
  have backwards :
      (stem ++ '.' :: extension).reverse = extension.reverse ++ '.' :: stem.reverse := by
    simp
  simp only [splitExtension?, backwards, List.takeWhile_append_of_pos passed,
    List.dropWhile_append_of_pos passed]
  simp [filled]

theorem eq_append_of_splitExtension? {name stem extension : List Char}
    (success : splitExtension? name = some (stem, extension)) :
    stem ≠ [] ∧ name = stem ++ '.' :: extension := by
  have parted := List.takeWhile_append_dropWhile (p := (· ≠ '.')) (l := name.reverse)
  unfold splitExtension? at success
  dsimp only at success
  split at success
  · rename_i head backwards dropped
    split at success
    · cases success
    · rename_i filled
      cases success
      have dot : head = '.' := by
        have stopped := List.head?_dropWhile_not (· ≠ '.') name.reverse
        rw [dropped] at stopped
        simpa using stopped
      rw [dropped, dot] at parted
      refine ⟨by simpa using filled, List.reverse_injective ?_⟩
      rw [List.reverse_append, List.reverse_cons, List.reverse_reverse, List.reverse_reverse,
        List.append_assoc, List.singleton_append, parted]
  · cases success

theorem kidOf?_eq_some_iff {name kid : String} :
    kidOf? name = some kid ↔ kid ≠ "" ∧ name = kid ++ ".pem" := by
  have extended : (kid ++ ".pem").toList = kid.toList ++ '.' :: ['p', 'e', 'm'] :=
    String.toList_append
  constructor
  · intro success
    unfold kidOf? at success
    split at success
    · cases success
    · split at success
      · rename_i stem extension parted
        obtain ⟨filled, whole⟩ := eq_append_of_splitExtension? parted
        split at success
        · rename_i same
          cases success
          refine ⟨by simpa using filled, String.toList_injective ?_⟩
          rw [extended, whole, same, String.toList_ofList]
        · cases success
      · cases success
  · rintro ⟨filled, rfl⟩
    have parted : splitExtension? (kid.toList ++ '.' :: ['p', 'e', 'm']) =
        some (kid.toList, ['p', 'e', 'm']) :=
      splitExtension?_append (by simpa using filled) (by decide)
    have apart : kid ++ ".pem" ≠ ".." := by
      intro same
      rw [same] at extended
      have lengths : 2 = (kid.toList ++ '.' :: ['p', 'e', 'm']).length :=
        congrArg List.length extended
      simp only [List.length_append, List.length_cons, List.length_nil] at lengths
      omega
    rw [kidOf?, if_neg apart, extended, parted]
    simp

theorem keyFile?_eq_some_iff {entry : DirectoryEntry} {kid : String} {text : Bytes} :
    keyFile? entry = some (kid, text) ↔ entry.HoldsKey kid text := by
  have taken : keyFile? entry = some (kid, text) ↔
      entry.content = some text ∧ kidOf? entry.name = some kid := by
    unfold keyFile?
    cases entry.content <;> cases kidOf? entry.name <;> simp [and_comm]
  rw [taken, kidOf?_eq_some_iff]
  constructor
  · rintro ⟨content, stem, named⟩
    exact ⟨stem, named, content⟩
  · rintro ⟨stem, named, content⟩
    exact ⟨content, stem, named⟩

theorem nodup_keyFiles {entries : List DirectoryEntry}
    (distinct : (entries.map DirectoryEntry.name).Nodup) :
    ((entries.filterMap keyFile?).map Prod.fst).Nodup := by
  induction entries with
  | nil => exact List.nodup_nil
  | cons first rest ih =>
      obtain ⟨apart, restDistinct⟩ := List.nodup_cons.mp distinct
      cases taken : keyFile? first with
      | none =>
          rw [List.filterMap_cons_none taken]
          exact ih restDistinct
      | some file =>
          obtain ⟨kid, text⟩ := file
          have holdsKey := keyFile?_eq_some_iff.mp taken
          rw [List.filterMap_cons_some taken, List.map_cons, List.nodup_cons]
          refine ⟨?_, ih restDistinct⟩
          intro again
          obtain ⟨⟨_, otherText⟩, listed, rfl⟩ := List.mem_map.mp again
          obtain ⟨other, member, otherTaken⟩ := List.mem_filterMap.mp listed
          have sameName := (keyFile?_eq_some_iff.mp otherTaken).named.trans holdsKey.named.symm
          exact apart (List.mem_map.mpr ⟨other, member, sameName⟩)

theorem mem_keyFiles {entries : List DirectoryEntry} {kid : String} {text : Bytes} :
    (kid, text) ∈ entries.filterMap keyFile? ↔ ∃ entry ∈ entries, entry.HoldsKey kid text := by
  simp only [List.mem_filterMap, keyFile?_eq_some_iff]

end Directory

namespace KeyStore

/-- A store of the keys in a directory, each under the stem of the name of its file. -/
structure Keeps (store : KeyStore) (entries : List DirectoryEntry) : Prop where
  kids : ∀ kid, kid ∈ store.kids ↔ ∃ entry ∈ entries, ∃ text, entry.HoldsKey kid text
  keys : ∀ kid pair, store.get kid = .ok pair ↔
    ∃ entry ∈ entries, ∃ text, entry.HoldsKey kid text ∧ KeyPair.ofPem kid text = .ok pair

theorem Holds.keeps {store : KeyStore} {entries : List DirectoryEntry}
    (holds : Holds store.pairs (entries.filterMap Directory.keyFile?)) : store.Keeps entries := by
  have faithful := holds.faithful
  constructor
  · intro kid
    rw [faithful.kids]
    constructor
    · intro listed
      obtain ⟨⟨_, text⟩, member, rfl⟩ := List.mem_map.mp listed
      obtain ⟨entry, among, holdsKey⟩ := Directory.mem_keyFiles.mp member
      exact ⟨entry, among, text, holdsKey⟩
    · rintro ⟨entry, among, text, holdsKey⟩
      exact List.mem_map_of_mem (Directory.mem_keyFiles.mpr ⟨entry, among, holdsKey⟩)
  · intro kid pair
    constructor
    · intro got
      obtain ⟨held, rfl⟩ := mem_of_get? (get_eq_ok_iff.mp got)
      obtain ⟨text, listed, accepted⟩ := (holds.mem_iff pair).mp held
      obtain ⟨entry, among, holdsKey⟩ := Directory.mem_keyFiles.mp listed
      exact ⟨entry, among, text, holdsKey, accepted⟩
    · rintro ⟨entry, among, text, holdsKey, accepted⟩
      obtain ⟨other, otherAccepted, _, got, _⟩ :=
        faithful.listed kid text (Directory.mem_keyFiles.mpr ⟨entry, among, holdsKey⟩)
      rw [got, Except.ok.inj (otherAccepted.symm.trans accepted)]

section Listing

variable {entries : List DirectoryEntry}

/-- Where no name is given twice, no key file can take the identifier of another one. -/
theorem ofDirectory_ne_duplicate (distinct : (entries.map DirectoryEntry.name).Nodup)
    (path kid : String) : ofDirectory path (.entries entries) ≠ .error (.duplicate kid) := by
  intro failed
  have loads := loads_ofEntries (entries.filterMap Directory.keyFile?)
  rw [ofDirectory] at failed
  rw [failed] at loads
  cases loads with
  | rejected earliest loadable rejected =>
      cases rejected with
      | repeated accepted taken =>
          have once := Directory.nodup_keyFiles distinct
          rw [earliest, List.map_append] at once
          exact once.disjoint taken List.mem_cons_self

theorem ofDirectory_perm (path : String) {order : List DirectoryEntry}
    (permuted : entries.Perm order) {store : KeyStore}
    (made : ofDirectory path (.entries entries) = .ok store) :
    ofDirectory path (.entries order) = .ok store := by
  have holds := (holds_of_ofEntries made).2
  exact ofEntries_of_holds (holds.perm (permuted.filterMap _))

/-- A directory makes a store exactly if it has key files and all of them hold keys. The store keeps
those keys whatever the order of the listing. No other entry has any influence on what comes of the
directory, and no identifier is ever found to be taken. -/
theorem ofDirectory_of_distinct (distinct : (entries.map DirectoryEntry.name).Nodup)
    (path : String) :
    ((∃ store, ofDirectory path (.entries entries) = .ok store) ↔
      (∃ entry ∈ entries, ∃ kid text, entry.HoldsKey kid text) ∧
      ∀ entry ∈ entries, ∀ kid text, entry.HoldsKey kid text →
        ∃ pair, KeyPair.ofPem kid text = .ok pair) ∧
    (∀ store, ofDirectory path (.entries entries) = .ok store → store.Keeps entries ∧
      ∀ order, entries.Perm order → ofDirectory path (.entries order) = .ok store) ∧
    (∀ before other after, entries = before ++ other :: after →
      (∀ kid text, ¬ other.HoldsKey kid text) →
      ofDirectory path (.entries entries) = ofDirectory path (.entries (before ++ after))) ∧
    ∀ kid, ofDirectory path (.entries entries) ≠ .error (.duplicate kid) := by
  refine ⟨?made, ?kept, ?others, ofDirectory_ne_duplicate distinct path⟩
  case made =>
    constructor
    · rintro ⟨store, made⟩
      obtain ⟨filled, holds⟩ := holds_of_ofEntries made
      obtain ⟨⟨kid, text⟩, listed⟩ := List.exists_mem_of_ne_nil _ filled
      obtain ⟨entry, among, holdsKey⟩ := Directory.mem_keyFiles.mp listed
      refine ⟨⟨entry, among, kid, text, holdsKey⟩, ?_⟩
      intro other otherAmong otherKid otherText otherHoldsKey
      exact holds.loadable.accepted otherKid otherText
        (Directory.mem_keyFiles.mpr ⟨other, otherAmong, otherHoldsKey⟩)
    · rintro ⟨⟨entry, among, kid, text, holdsKey⟩, accepted⟩
      have listed := Directory.mem_keyFiles.mpr ⟨entry, among, holdsKey⟩
      have loadable : Loadable (entries.filterMap Directory.keyFile?) := by
        refine ⟨?_, Directory.nodup_keyFiles distinct⟩
        intro otherKid otherText member
        obtain ⟨other, otherAmong, otherHoldsKey⟩ := Directory.mem_keyFiles.mp member
        exact accepted other otherAmong otherKid otherText otherHoldsKey
      obtain ⟨store, made, _⟩ := ofEntries_of_loadable (List.ne_nil_of_mem listed) loadable
      exact ⟨store, made⟩
  case kept =>
    intro store made
    exact ⟨(holds_of_ofEntries made).2.keeps, fun _ permuted => ofDirectory_perm path permuted made⟩
  case others =>
    rintro before other after rfl foreign
    have passedOver : Directory.keyFile? other = none := by
      rw [Option.eq_none_iff_forall_ne_some]
      rintro ⟨kid, text⟩ taken
      exact foreign kid text (Directory.keyFile?_eq_some_iff.mp taken)
    rw [ofDirectory, ofDirectory, List.filterMap_append, List.filterMap_append,
      List.filterMap_cons_none passedOver]

end Listing

end KeyStore

/-- One key file among a sub-directory, a hidden file, a file of another kind and an extension in
another letter case. -/
def exampleListing : List DirectoryEntry :=
  [⟨"old.pem", none⟩, ⟨".pem", some []⟩, ⟨"main.pem", some soundPair.file⟩, ⟨"notes.txt", some []⟩,
    ⟨"main.PEM", some []⟩]

theorem ofDirectory_of_distinct_example :
    (exampleListing.map DirectoryEntry.name).Nodup ∧
      ∃ store, KeyStore.ofDirectory "keys" (.entries exampleListing) = .ok store ∧
        store.Keeps exampleListing ∧
        KeyStore.ofDirectory "keys" (.entries exampleListing.reverse) = .ok store := by
  have distinct : (exampleListing.map DirectoryEntry.name).Nodup := by decide
  obtain ⟨made, kept, _⟩ := KeyStore.ofDirectory_of_distinct distinct "keys"
  have keyFiles : exampleListing.filterMap Directory.keyFile? = [("main", soundPair.file)] := rfl
  have only : ∀ entry ∈ exampleListing, ∀ kid text, entry.HoldsKey kid text →
      (kid, text) = ("main", soundPair.file) := by
    intro entry among kid text holdsKey
    have listed := Directory.mem_keyFiles.mpr ⟨entry, among, holdsKey⟩
    rw [keyFiles] at listed
    exact List.mem_singleton.mp listed
  have present : ∃ entry ∈ exampleListing, ∃ kid text, entry.HoldsKey kid text :=
    ⟨⟨"main.pem", some soundPair.file⟩, by simp [exampleListing], "main", soundPair.file,
      by decide, rfl, rfl⟩
  have accepted : ∀ entry ∈ exampleListing, ∀ kid text, entry.HoldsKey kid text →
      ∃ pair, KeyPair.ofPem kid text = .ok pair := by
    intro entry among kid text holdsKey
    cases only entry among kid text holdsKey
    exact ⟨soundPair, soundPair.ofPem_file⟩
  obtain ⟨store, stored⟩ := made.mpr ⟨present, accepted⟩
  obtain ⟨keeps, ordered⟩ := kept store stored
  exact ⟨distinct, store, stored, keeps, ordered _ (List.reverse_perm _).symm⟩

end Turnstile

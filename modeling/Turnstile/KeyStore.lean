import Turnstile.KeyPair
set_option autoImplicit false

/-! A store of signing keys. It is built whole from its entries or not at all,
holds each identifier once, and is never empty. Keys are kept in the order of
their identifiers, so entries in any order make the same store. -/

namespace Turnstile

inductive KeyError where
  | directory (path reason : String)
  | invalid (kid reason : String)
  | duplicate (kid : String)
  | empty
  | unknown (kid : String)
  deriving DecidableEq, Repr

namespace KeyError

def message : KeyError → String
  | directory path reason => "reading key directory " ++ path ++ ": " ++ reason
  | invalid kid reason => "key " ++ Text.quoted kid ++ ": " ++ reason
  | duplicate kid => "duplicate key id " ++ Text.quoted kid
  | empty => "no keys found"
  | unknown kid => "key " ++ Text.quoted kid ++ " not found"

end KeyError

/-- Pairs in strictly increasing order of their identifiers. -/
structure KeyStore where
  pairs : List KeyPair
  sorted : pairs.Pairwise fun earlier later => earlier.kid < later.kid
  nonempty : pairs ≠ []

namespace KeyStore

/-- Put a pair in its place among sorted ones, unless its identifier is taken. -/
def insert? (pair : KeyPair) : List KeyPair → Option (List KeyPair)
  | [] => some [pair]
  | other :: rest =>
      if pair.kid < other.kid then some (pair :: other :: rest)
      else if other.kid < pair.kid then (insert? pair rest).map (other :: ·)
      else none

theorem mem_insert? {pair : KeyPair} {pairs inserted : List KeyPair}
    (success : insert? pair pairs = some inserted) (other : KeyPair) :
    other ∈ inserted ↔ other = pair ∨ other ∈ pairs := by
  induction pairs generalizing inserted with
  | nil =>
      simp only [insert?, Option.some.injEq] at success
      subst success
      simp
  | cons first rest inductionHypothesis =>
      unfold insert? at success
      split at success
      · simp only [Option.some.injEq] at success
        subst success
        simp
      · split at success
        · simp only [Option.map_eq_some_iff] at success
          obtain ⟨tail, tailSuccess, equality⟩ := success
          subst equality
          simp only [List.mem_cons, inductionHypothesis tailSuccess]
          exact or_left_comm
        · exact absurd success (by simp)

theorem sorted_insert? {pair : KeyPair} {pairs inserted : List KeyPair}
    (success : insert? pair pairs = some inserted)
    (sorted : pairs.Pairwise fun earlier later => earlier.kid < later.kid) :
    inserted.Pairwise fun earlier later => earlier.kid < later.kid := by
  induction pairs generalizing inserted with
  | nil =>
      simp only [insert?, Option.some.injEq] at success
      subst success
      simp
  | cons first rest inductionHypothesis =>
      obtain ⟨firstBelow, restSorted⟩ := List.pairwise_cons.mp sorted
      unfold insert? at success
      split at success
      · rename_i below
        simp only [Option.some.injEq] at success
        subst success
        refine List.pairwise_cons.mpr ⟨?_, sorted⟩
        intro other member
        rcases List.mem_cons.mp member with same | inRest
        · exact same ▸ below
        · exact String.lt_trans below (firstBelow other inRest)
      · split at success
        · rename_i above
          simp only [Option.map_eq_some_iff] at success
          obtain ⟨tail, tailSuccess, equality⟩ := success
          subst equality
          refine List.pairwise_cons.mpr ⟨?_, inductionHypothesis tailSuccess restSorted⟩
          intro other member
          rcases (mem_insert? tailSuccess other).mp member with same | inRest
          · exact same ▸ above
          · exact firstBelow other inRest
        · exact absurd success (by simp)

def load (pairs : List KeyPair) : List (String × Bytes) → Except KeyError (List KeyPair)
  | [] => .ok pairs
  | (kid, text) :: rest =>
      match KeyPair.ofPem kid text with
      | .error rejection => .error (.invalid kid rejection.message)
      | .ok pair =>
          match insert? pair pairs with
          | none => .error (.duplicate kid)
          | some pairs => load pairs rest

theorem sorted_load {pairs loaded : List KeyPair} {entries : List (String × Bytes)}
    (success : load pairs entries = .ok loaded)
    (sorted : pairs.Pairwise fun earlier later => earlier.kid < later.kid) :
    loaded.Pairwise fun earlier later => earlier.kid < later.kid := by
  induction entries generalizing pairs with
  | nil =>
      simp only [load, Except.ok.injEq] at success
      exact success ▸ sorted
  | cons entry rest inductionHypothesis =>
      obtain ⟨kid, text⟩ := entry
      unfold load at success
      split at success
      · exact absurd success (by simp)
      · split at success
        · exact absurd success (by simp)
        · rename_i inserted
          exact inductionHypothesis success (sorted_insert? inserted sorted)

def ofEntries (entries : List (String × Bytes)) : Except KeyError KeyStore :=
  match success : load [] entries with
  | .error error => .error error
  | .ok pairs =>
      if nonempty : pairs = [] then .error .empty
      else .ok ⟨pairs, sorted_load success List.Pairwise.nil, nonempty⟩

def get? (store : KeyStore) (kid : String) : Option KeyPair :=
  store.pairs.find? fun pair => pair.kid = kid

def get (store : KeyStore) (kid : String) : Except KeyError KeyPair :=
  match store.get? kid with
  | some pair => .ok pair
  | none => .error (.unknown kid)

/-- The key that verifies what the key under an identifier signs. -/
def publicKey (store : KeyStore) (kid : String) : Except KeyError Rsa.PublicKey :=
  (store.get kid).map KeyPair.publicKey

def publicPem (store : KeyStore) (kid : String) : Except KeyError String :=
  (store.get kid).map KeyPair.publicPem

def contains (store : KeyStore) (kid : String) : Bool := (store.get? kid).isSome

def kids (store : KeyStore) : List String := store.pairs.map KeyPair.kid

theorem mem_of_get? {store : KeyStore} {kid : String} {pair : KeyPair}
    (found : store.get? kid = some pair) : pair ∈ store.pairs ∧ pair.kid = kid := by
  refine ⟨List.mem_of_find?_eq_some found, ?_⟩
  simpa using List.find?_some found

theorem contains_iff {store : KeyStore} {kid : String} :
    store.contains kid = true ↔ kid ∈ store.kids := by
  simp [contains, get?, kids, List.find?_isSome]

theorem sorted_kids (store : KeyStore) : store.kids.Pairwise (· < ·) := by
  exact List.pairwise_map.mpr store.sorted

end KeyStore

/-- An entry of a key directory: its name, and its content if it is a file. -/
structure DirectoryEntry where
  name : String
  content : Option Bytes
  deriving DecidableEq, Repr

inductive Directory where
  | entries (entries : List DirectoryEntry)
  | missing
  | notADirectory
  deriving DecidableEq, Repr

namespace Directory

/-- The characters before the last dot and those after it, if there is a dot
behind the first character. -/
def splitExtension? (name : List Char) : Option (List Char × List Char) :=
  let extension := (name.reverse.takeWhile (· ≠ '.')).reverse
  match (name.reverse.dropWhile (· ≠ '.')) with
  | _ :: stem => if stem.isEmpty then none else some (stem.reverse, extension)
  | [] => none

def kidOf? (name : String) : Option String :=
  if name = ".." then none
  else match splitExtension? name.toList with
    | some (stem, extension) =>
        if extension = ['p', 'e', 'm'] then some (String.ofList stem) else none
    | none => none

def keyFile? (entry : DirectoryEntry) : Option (String × Bytes) := do
  let content ← entry.content
  let kid ← kidOf? entry.name
  return (kid, content)

end Directory

namespace KeyStore

def ofDirectory (path : String) : Directory → Except KeyError KeyStore
  | .entries entries => ofEntries (entries.filterMap Directory.keyFile?)
  | .missing => .error (.directory path "No such file or directory (os error 2)")
  | .notADirectory => .error (.directory path "Not a directory (os error 20)")

end KeyStore

end Turnstile

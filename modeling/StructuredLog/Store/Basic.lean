import StructuredLog.Container

/-! # Stores — containers shared by migrations

    A store holds the declarations of named containers and counts its changes:
    every change raises the generation by one.  A declaration can be appended
    only by someone who knows the current generation, so nobody appends on the
    strength of an outdated snapshot. -/

namespace StructuredLog

/-- Why a store refuses a request. -/
inductive StoreRefusal where
  /-- The store is not at the generation that the caller knows. -/
  | conflict (expected actual : Nat)
  | unavailable (reason : String)
  deriving DecidableEq, Repr

/-- The text of the error. -/
def StoreRefusal.message : StoreRefusal → String
  | .conflict expected actual =>
    "container store moved from generation " ++ toString expected ++ " to " ++ toString actual
  | .unavailable reason => "container store unavailable: " ++ reason

/-- A container with the declarations behind its methods. -/
structure StoreEntry where
  container : Container
  declarations : List Declaration
  deriving DecidableEq, Repr, Inhabited

namespace StoreEntry

/-- The entry of declared methods. -/
def ofDeclarations (name : String) (declarations : List Declaration) : StoreEntry :=
  ⟨.ofDeclarations name declarations, declarations⟩

/-- The entry with one more declaration at its end. -/
def push (entry : StoreEntry) (d : Declaration) : StoreEntry :=
  ⟨entry.container.push d.signature, entry.declarations ++ [d]⟩

end StoreEntry

/-- An entry as of one generation. -/
structure Snapshot extends StoreEntry where
  generation : Nat
  deriving DecidableEq, Repr

/-- The first declaration of the snapshot with the given signature. -/
def Snapshot.declaration? (s : Snapshot) (signature : Signature) : Option Declaration :=
  s.declarations.find? (·.signature == signature)

/-- Named entries and the number of changes so far. -/
structure Store where
  generation : Nat := 0
  entries : List (String × StoreEntry) := []
  deriving Repr

namespace Store

/-- The store without any container. -/
def empty : Store := {}

/-- The entry of a name. -/
def entry? (s : Store) (name : String) : Option StoreEntry :=
  s.entries.lookup name

/-- The declarations of a container; none if there is no such container. -/
def declarations (s : Store) (name : String) : List Declaration :=
  ((s.entry? name).map StoreEntry.declarations).getD []

/-- The names of the containers, in ascending order. -/
def names (s : Store) : List String :=
  (s.entries.map Prod.fst).mergeSort (fun a b => decide (a ≤ b))

/-- The entries with that of a name replaced, or added at the end. -/
def setEntry (name : String) (entry : StoreEntry) :
    List (String × StoreEntry) → List (String × StoreEntry)
  | [] => [(name, entry)]
  | (n, e) :: rest =>
    if n = name then (n, entry) :: rest else (n, e) :: setEntry name entry rest

/-- The store one change later, with the entry of a name set. -/
def change (s : Store) (name : String) (entry : StoreEntry) : Store :=
  ⟨s.generation + 1, setEntry name entry s.entries⟩

/-- Put declared methods in the place of a container. -/
def insert (s : Store) (name : String) (declarations : List Declaration) : Store :=
  s.change name (.ofDeclarations name declarations)

/-- The container as it is now. -/
def snapshot? (s : Store) (name : String) : Option Snapshot :=
  (s.entry? name).map fun entry => { entry with generation := s.generation }

/-- Make sure that a container exists. -/
def create (s : Store) (name : String) : Store :=
  match s.entry? name with
  | some _ => s
  | none => s.change name (.ofDeclarations name [])

/-- Append a declaration, provided the store is at the expected generation; the
    answer is the new generation. -/
def append (s : Store) (name : String) (expected : Nat) (d : Declaration) :
    Except StoreRefusal Nat × Store :=
  if s.generation ≠ expected then (.error (.conflict expected s.generation), s)
  else
    match s.entry? name with
    | none => (.error (.unavailable ("container `" ++ name ++ "` does not exist")), s)
    | some entry => (.ok (s.generation + 1), s.change name (entry.push d))

/-- Setting an entry changes the entry of that name and no other. -/
theorem lookup_setEntry (name other : String) (entry : StoreEntry)
    (entries : List (String × StoreEntry)) :
    (setEntry name entry entries).lookup other
      = if other = name then some entry else entries.lookup other := by
  induction entries with
  | nil =>
      by_cases h : other = name
      · simp [setEntry, h]
      · simp [setEntry, List.lookup_cons, beq_false_of_ne h, h]
  | cons head rest ih =>
      obtain ⟨n, e⟩ := head
      by_cases hn : n = name
      · subst hn
        by_cases h : other = n
        · simp [setEntry, h]
        · simp [setEntry, List.lookup_cons, beq_false_of_ne h, h]
      · by_cases ho : other = n
        · subst ho
          simp [setEntry, hn]
        · simp [setEntry, hn, List.lookup_cons, beq_false_of_ne ho, ih]

end Store

end StructuredLog

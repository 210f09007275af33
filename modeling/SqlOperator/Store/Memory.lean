import SqlOperator.Store.Program

/-!
# Objects in memory

A store of one kind keeps its objects by key and counts versions: every object
that is put into it gets the next version as its resource version, so that no
two contents share one. A replacement is accepted only with the version of the
object that is there.

## Implementation notes

An armed race stands for another writer that comes right after the next `get`:
the object that was read is stamped anew.
-/

namespace SqlOperator

/-- Set what a store sets: the version, and on new objects the time and the identity. -/
def Metadata.stamp (m : Metadata) (version : Nat) (now : Timestamp) : Metadata :=
  { m with
    resourceVersion := some (toString version)
    creationTimestamp := some (m.creationTimestamp.getD now)
    uid := some (m.uid.getD ("uid-" ++ toString version)) }

namespace StoreError

/-- An error of the server's own making. -/
def ofServer (code : UInt16) (reason message : String) : StoreError :=
  .api ⟨"Failure", message, reason, code⟩

/-- There is an object already where a new one was to go. -/
def alreadyExists (key : ObjectKey) : StoreError :=
  ofServer 409 "AlreadyExists" (key.render ++ " already exists")

/-- There is no object that could be replaced. -/
def notFound (key : ObjectKey) : StoreError :=
  ofServer 404 "NotFound" (key.render ++ " not found")

/-- The object has another version than the one that was to be replaced. -/
def conflict (key : ObjectKey) : StoreError :=
  ofServer 409 "Conflict" (key.render ++ " has been modified")

end StoreError

/-- A store of one kind: its objects by key, and what it counts. -/
structure MemoryStore (kind : Kind) where
  objects : SortedMap ObjectKey kind.Object := .empty
  /-- The last version that was given out. -/
  versions : Nat := 0
  /-- The number of successful creations and replacements. -/
  writes : Nat := 0
  /-- Whether another writer comes right after the next `get`. -/
  raceArmed : Bool := false

namespace MemoryStore

variable {kind : Kind}

instance : Inhabited (MemoryStore kind) := ⟨{}⟩

def size (s : MemoryStore kind) : Nat := s.objects.size

def isEmpty (s : MemoryStore kind) : Bool := s.objects.isEmpty

/-- Stamp an object with the next version and put it under a key. -/
def put (s : MemoryStore kind) (now : Timestamp) (key : ObjectKey) (object : kind.Object) :
    kind.Object × MemoryStore kind :=
  let version := s.versions + 1
  let stamped := kind.withMetadata object ((kind.metadata object).stamp version now)
  (stamped, { s with versions := version, objects := s.objects.insert key stamped })

/-- Put an object under its own key, as another writer does. -/
def insert (s : MemoryStore kind) (now : Timestamp) (object : kind.Object) : MemoryStore kind :=
  (s.put now (kind.key object) object).2

/-- Let another writer come right after the next `get`. -/
def armRace (s : MemoryStore kind) : MemoryStore kind := { s with raceArmed := true }

/-- The object under a key. A race that is armed takes place now. -/
def get (s : MemoryStore kind) (now : Timestamp) (key : ObjectKey) :
    Option kind.Object × MemoryStore kind :=
  let found := s.objects.get? key
  if s.raceArmed then
    let s := { s with raceArmed := false }
    match found with
    | some object => (found, (s.put now key object).2)
    | none => (found, s)
  else (found, s)

/-- Store a new object. -/
def create (s : MemoryStore kind) (now : Timestamp) (object : kind.Object) :
    Except StoreError kind.Object × MemoryStore kind :=
  let key := kind.key object
  if s.objects.contains key then (.error (.alreadyExists key), s)
  else
    let (stored, s) := s.put now key object
    (.ok stored, { s with writes := s.writes + 1 })

/-- Store an object in place of the one that has its key and its version. -/
def replace (s : MemoryStore kind) (now : Timestamp) (object : kind.Object) :
    Except StoreError kind.Object × MemoryStore kind :=
  let key := kind.key object
  match s.objects.get? key with
  | none => (.error (.notFound key), s)
  | some current =>
    if (kind.metadata current).resourceVersion ≠ (kind.metadata object).resourceVersion then
      (.error (.conflict key), s)
    else
      let (stored, s) := s.put now key object
      (.ok stored, { s with writes := s.writes + 1 })

end MemoryStore

end SqlOperator

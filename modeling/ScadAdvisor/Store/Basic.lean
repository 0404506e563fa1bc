import ScadAdvisor.Diagnostic
import ScadAdvisor.Log
import ScadAdvisor.Snapshot
import ScadAdvisor.Table

/-! # The diagnostic store

The store keeps the diagnostics of one version for each path, and hands each of them out once. An
entry that it drops can still be in use, so entries are numbered and none is ever forgotten; `live`
says which of them the store would find again.
-/

namespace ScadAdvisor

/-! ## Entries -/

/-- The diagnostics of a snapshot, and the positions of those that were handed out. -/
structure Entry where
  path : Text
  version : Int
  diagnostics : List Diagnostic
  consumed : List Nat := []
deriving DecidableEq, Repr

namespace Entry

def key (entry : Entry) : Text := snapshotKey entry.path entry.version

/-- The positions, from `n` on, of what lies inside `range` and was not handed out. -/
def unconsumedFrom (consumed : List Nat) (range : TextRange) :
    Nat → List Diagnostic → List (Nat × Diagnostic)
  | _, [] => []
  | n, d :: rest =>
    if !consumed.contains n && range.contains d.range then
      (n, d) :: unconsumedFrom consumed range (n + 1) rest
    else unconsumedFrom consumed range (n + 1) rest

def unconsumed (entry : Entry) (range : TextRange) : List (Nat × Diagnostic) :=
  unconsumedFrom entry.consumed range 0 entry.diagnostics

def consume (entry : Entry) (range : TextRange) : Entry × List Diagnostic :=
  let found := entry.unconsumed range
  ({ entry with consumed := entry.consumed ++ found.map (·.1) }, found.map (·.2))

/-- The positions that were handed out, in increasing order. -/
def consumedPositions (entry : Entry) : List Nat :=
  (List.range entry.diagnostics.length).filter entry.consumed.contains

end Entry

/-! ## The store -/

structure Store where
  /-- All entries ever made; the number of an entry is its place. -/
  entries : List Entry := []
  /-- The numbers of the cached entries by their keys. -/
  live : Table Nat := []
  hits : Nat := 0
  misses : Nat := 0
  evictions : Nat := 0
deriving DecidableEq, Repr

/-- Where the text of a snapshot comes from. A loader is called only if the text is needed, and it
may fail. -/
inductive TextSource where
  | given (text : Text)
  | loader (result : Option Text)
deriving DecidableEq, Repr

namespace TextSource

def get? : TextSource → Option Text
  | .given text => some text
  | .loader result => result

def isLoader : TextSource → Bool
  | .given _ => false
  | .loader _ => true

end TextSource

abbrev Scanner := Text → List Diagnostic

/-- What asking for an entry gave: its number unless the text could not be loaded, and what had to be
done for it. -/
structure Fetch where
  store : Store
  entry : Option Nat
  loads : Nat
  scans : Nat
  log : List LogRecord
deriving DecidableEq, Repr

structure StoreInfo where
  entries : Nat
  hits : Nat
  misses : Nat
  evictions : Nat
deriving DecidableEq, Repr

namespace Store

def size (s : Store) : Nat := s.live.length

def contains (s : Store) (key : Text) : Bool := (s.live.get? key).isSome

def info (s : Store) : StoreInfo := ⟨s.size, s.hits, s.misses, s.evictions⟩

/-- Whether an entry holds a version of the path other than the one to keep. -/
def isStale (s : Store) (path : Text) (keep : Option Int) (number : Nat) : Bool :=
  (s.entries[number]?).any fun entry => entry.path == path && keep != some entry.version

def evictStale (s : Store) (path : Text) (keep : Option Int) : Store × Nat × List LogRecord :=
  let stale := s.live.filter fun (_, number) => s.isStale path keep number
  let count := stale.length
  let message := "evicted ".toList ++ Text.ofNat count ++ " stale entr(ies) for ".toList ++ path
  ({ s with
      live := s.live.filter fun (_, number) => !s.isStale path keep number
      evictions := s.evictions + count },
    count, if count == 0 then [] else [⟨.store, message⟩])

/-- The entry of a path at a version. If it is not cached, older versions go first, then the text is
loaded and scanned. -/
def get (scanner : Scanner) (s : Store) (path : Text) (version : Int) (source : TextSource) : Fetch :=
  let key := snapshotKey path version
  match s.live.get? key with
  | some number =>
    { store := { s with hits := s.hits + 1 }, entry := some number, loads := 0, scans := 0, log := [] }
  | none =>
    -- They are gone also if no text comes of it.
    let (s, _, log) := s.evictStale path (some version)
    let loads := if source.isLoader then 1 else 0
    match source.get? with
    | none => { store := s, entry := none, loads, scans := 0, log }
    | some text =>
      let found := scanner text
      let message := "cached ".toList ++ Text.ofNat found.length ++ " diagnostic(s) for ".toList ++ key
      { store :=
          { s with
            entries := s.entries ++ [{ path, version, diagnostics := found }]
            live := s.live.put key s.entries.length
            misses := s.misses + 1 }
        entry := some s.entries.length
        loads
        scans := 1
        log := log ++ [⟨.store, message⟩] }

def getSnapshot (scanner : Scanner) (s : Store) (snapshot : Snapshot) : Fetch :=
  s.get scanner snapshot.path snapshot.version (.given snapshot.text)

/-- Hands out diagnostics of an entry, cached or not. -/
def consumeForRange (s : Store) (number : Nat) (range : TextRange) : Store × List Diagnostic :=
  match s.entries[number]? with
  | some entry =>
    let (entry, released) := entry.consume range
    ({ s with entries := s.entries.set number entry }, released)
  | none => (s, [])

def consume (scanner : Scanner) (s : Store) (snapshot : Snapshot) (range : TextRange) :
    Fetch × List Diagnostic :=
  let fetch := s.getSnapshot scanner snapshot
  match fetch.entry with
  | some number =>
    let (store, released) := fetch.store.consumeForRange number range
    ({ fetch with store }, released)
  | none => (fetch, [])

def evict (s : Store) (path : Text) : Store × Nat × List LogRecord := s.evictStale path none

/-- Drops everything and starts counting anew. -/
def clear (s : Store) : Store := { entries := s.entries }

end Store

end ScadAdvisor

import Mathlib.Data.List.Zip
import Mathlib.Logic.Function.Basic
import StreamServer.Shared.Runs

set_option autoImplicit false

namespace StreamServer.Playback.Completion

-- What `files()` of the native handle tells of a file. `downloaded` is libtorrent's byte progress,
-- which also counts blocks of pieces that have not passed their hash check.
structure FileInfo where
  size : Int
  downloaded : Int
  firstPiece : Int
  lastPiece : Int
deriving DecidableEq, Repr

def FileInfo.contains (file : FileInfo) (piece : Int) : Prop :=
  file.firstPiece ≤ piece ∧ piece ≤ file.lastPiece

instance (file : FileInfo) (piece : Int) : Decidable (file.contains piece) :=
  inferInstanceAs (Decidable (_ ∧ _))

def FileInfo.markedComplete (file : FileInfo) : Bool :=
  file.size ≤ 0 || file.downloaded ≥ file.size

structure TorrentLayout where
  files : List FileInfo
  completion : List (Option Bool)
  sized : completion.length = files.length

inductive PieceEvent where
  | verified (piece : Int)
  | invalidated (piece : Int)
deriving DecidableEq, Repr

namespace TorrentLayout

def queryLayout (files : List FileInfo) : TorrentLayout where
  files
  completion := files.map fun file => if file.markedComplete then some true else none
  sized := List.length_map _

def clears (event : PieceEvent) (file : FileInfo) (cached : Option Bool) : Bool :=
  match event with
  | .verified piece => file.contains piece && cached != some true
  | .invalidated piece => file.contains piece

def observe (layout : TorrentLayout) (event : PieceEvent) : TorrentLayout where
  files := layout.files
  completion := List.zipWith (fun file cached => if clears event file cached then none else cached)
    layout.files layout.completion
  sized := by simp [layout.sized]

def write (layout : TorrentLayout) (fileIdx : Nat) (complete : Bool) : TorrentLayout where
  files := layout.files
  completion := layout.completion.set fileIdx (some complete)
  sized := by simp [layout.sized]

def cached (layout : TorrentLayout) (fileIdx : Nat) : Option Bool :=
  (layout.completion[fileIdx]?).join

end TorrentLayout

-- Where a call of `file_is_complete_with_layout` stands. In its last section it has read the
-- presence and holds the session lock.
inductive Query where
  | checkCache (fileIdx : Nat)
  | lockSession (fileIdx : Nat)
  | write (fileIdx : Nat) (complete : Bool)
deriving DecidableEq, Repr

def Query.holdsSession : Query → Bool
  | .write _ _ => true
  | _ => false

structure Cache where
  numPieces : Int
  present : Int → Bool
  -- Posted by libtorrent and not yet popped.
  alerts : List PieceEvent
  commands : List PieceEvent
  layout : Option TorrentLayout
  -- What `query_layout` has returned to the `OnceCell` that is being initialised.
  loading : Option TorrentLayout
  queries : List Query

def Cache.new (numPieces : Int) : Cache where
  numPieces
  present := fun _ => false
  alerts := []
  commands := []
  layout := none
  loading := none
  queries := []

def piecePresence (numPieces : Int) (present : Int → Bool) (first last : Int) : List Bool :=
  if first < 0 ∨ last < first ∨ first ≥ numPieces then []
  else
    let last := min last (numPieces - 1)
    (List.range (last - first + 1).toNat).map fun (index : Nat) => present (first + index)

def isComplete (numPieces : Int) (present : Int → Bool) (file : FileInfo) : Bool :=
  let presence := piecePresence numPieces present file.firstPiece file.lastPiece
  -- A negative count does not convert and stands for zero.
  let expected := (file.lastPiece - file.firstPiece + 1).toNat
  presence.length == expected && presence.all (· == true)

inductive Action where
  | verify (piece : Int)
  | invalidate (piece : Int)
  | popAlerts
  | handle
  | loadRead (files : List FileInfo)
  | loadSet
  | loadAbandon
  | query (fileIdx : Nat)
  | advance (index : Nat) (torrentFound : Bool)
  | abandon (index : Nat)
  | remove

namespace Cache

def advance (cache : Cache) (layout : TorrentLayout) (index : Nat) (torrentFound : Bool) :
    Query → Option Cache
  | .checkCache fileIdx =>
      match layout.cached fileIdx with
      | some _ => some { cache with queries := cache.queries.eraseIdx index }
      | none => some { cache with queries := cache.queries.set index (.lockSession fileIdx) }
  | .lockSession fileIdx =>
      match layout.files[fileIdx]? with
      | some file =>
          if torrentFound then
            let complete := isComplete cache.numPieces cache.present file
            some { cache with queries := cache.queries.set index (.write fileIdx complete) }
          else some { cache with queries := cache.queries.eraseIdx index }
      | none => some { cache with queries := cache.queries.eraseIdx index }
  | .write fileIdx complete =>
      some { cache with
        layout := some (layout.write fileIdx complete)
        queries := cache.queries.eraseIdx index }

def step (cache : Cache) : Action → Option Cache
  | .verify piece =>
      if 0 ≤ piece ∧ piece < cache.numPieces then
        some { cache with
          present := Function.update cache.present piece true
          alerts := cache.alerts ++ [.verified piece] }
      else none
  | .invalidate piece =>
      some { cache with
        present := Function.update cache.present piece false
        alerts := cache.alerts ++ [.invalidated piece] }
  | .popAlerts =>
      -- Alerts are popped under the session's write lock.
      if cache.queries.any Query.holdsSession then none
      else some { cache with commands := cache.commands ++ cache.alerts, alerts := [] }
  | .handle =>
      match cache.commands with
      | event :: commands =>
          some { cache with commands, layout := cache.layout.map (·.observe event) }
      | [] => none
  | .loadRead files =>
      match cache.layout, cache.loading with
      | none, none => some { cache with loading := some (.queryLayout files) }
      | _, _ => none
  | .loadSet =>
      match cache.loading with
      | some layout => some { cache with layout := some layout, loading := none }
      | none => none
  | .loadAbandon => some { cache with loading := none }
  | .query fileIdx =>
      if cache.layout.isSome then some { cache with queries := cache.queries ++ [.checkCache fileIdx] }
      else none
  | .advance index torrentFound => do
      let query ← cache.queries[index]?
      let layout ← cache.layout
      cache.advance layout index torrentFound query
  | .abandon index =>
      -- There is no await between the reading of the presence and the write.
      match cache.queries[index]? with
      | some (.write _ _) | none => none
      | some _ => some { cache with queries := cache.queries.eraseIdx index }
  | .remove =>
      -- A later entry has a layout of its own, which calls for the removed one do not touch.
      some { cache with layout := none, loading := none, queries := [] }

def pending (cache : Cache) : List PieceEvent := cache.commands ++ cache.alerts

end Cache

end StreamServer.Playback.Completion

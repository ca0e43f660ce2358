import TelegramDrive.Library.Machine
import TelegramDrive.Library.Table
import Mathlib.Data.List.MinMax

namespace TelegramDrive
namespace Workspace

/-!
# The cache of previews

Previews that are being downloaded reserve their size first, out of the limit of the pool
that their directory belongs to.  Files that nobody keeps are deleted, the oldest first, to
make room.  Clearing a directory ends the reservations of its pool: each clearing advances
the epoch of the pool, and a reservation is published only in the epoch it was made in.

All accesses hold one lock.  Only the second half of giving up a reservation, the deletion
of its partial file, comes after the lock was released.
-/

/-! ## Paths and pools -/

abbrev CacheDirectory := List String

/-- The path of a file, whose name is split at its last dot. -/
structure CachePath where
  directory : CacheDirectory
  stem : String
  extension : Option String
deriving DecidableEq

namespace CachePath

def name (path : CachePath) : String :=
  path.extension.elim path.stem fun extension => path.stem ++ "." ++ extension

def components (path : CachePath) : List String := path.directory ++ [path.name]

def withExtension (path : CachePath) (extension : String) : CachePath :=
  { path with extension := some extension }

end CachePath

structure Pool where
  root : CacheDirectory
  thumbnail : Bool
deriving DecidableEq

/-- The directories that were registered, and how paths are made canonical.  Below the
directory of the previews there are only real directories, and no root stands inside the
directory of a library. -/
structure CacheLayout where
  normalize : CacheDirectory -> CacheDirectory
  previews : CacheDirectory
  roots : List CacheDirectory
  legacyThumbnails : List (CacheDirectory × CacheDirectory)
  registered : previews ∈ roots
  canonical : forall path, previews <+: path -> normalize path = path
  undivided : forall root, root ∈ roots ++ legacyThumbnails.map Prod.fst ->
    previews ++ ["android-library"] <+: root -> root = previews ++ ["android-library"]

namespace CacheLayout

/-- `category`: the directory of the library's previews. -/
def base (layout : CacheLayout) : CacheDirectory := layout.previews ++ ["android-library"]

def poolIn (layout : CacheLayout) (path : CacheDirectory) : Pool :=
  let directory := layout.normalize path
  match (layout.legacyThumbnails.filter (·.1.isPrefixOf directory)).argmax (·.1.length) with
  | some (_, root) => ⟨root, true⟩
  | none =>
    let root := ((layout.roots.filter (·.isPrefixOf directory)).argmax List.length).getD directory
    let parts := directory.drop root.length
    ⟨root, decide (3 ≤ parts.length) && parts[0]? == some "workspace" && parts[2]? == some "thumbnails"⟩

end CacheLayout

/-! ## The state -/

/-- A file, with the second of its last modification if that can be told. -/
structure CachedFile where
  path : CachePath
  bytes : Nat
  modified : Option Int
deriving DecidableEq

abbrev CacheFiles := Table CachePath CachedFile CachedFile.path

structure Reserved where
  token : String
  pool : Pool
  bytes : Nat
deriving DecidableEq

/-- An entry of `paths`. -/
structure OwnedPath where
  path : CachePath
  token : String
deriving DecidableEq

/-- A directory that is being cleared, and how many times over. -/
structure Cleared where
  directory : CacheDirectory
  times : Nat
deriving DecidableEq

/-- `Reservation`, of a preview that is being downloaded. -/
structure Reservation where
  root : CacheDirectory
  token : String
  target : CachePath
  part : CachePath
  expected : Nat
  epoch : Nat
deriving DecidableEq

/-- What happened: a reservation was granted for a directory, a clearing of a pool began, a
reservation of a pool was published. -/
inductive CacheEntry
  | reserved (token : String) (directory : CacheDirectory)
  | cleared (pool : Pool)
  | published (token : String) (pool : Pool)
deriving DecidableEq

/-- The files, the shared state and the limits.  `held` are the reservations that downloads
hold, `doomed` the partial files that are still to be deleted, and `cleaners` the clearings
under way; the newest entry of the log comes first. -/
structure CacheState where
  files : CacheFiles
  paths : Table CachePath OwnedPath OwnedPath.path
  reservations : Table String Reserved Reserved.token
  clearing : Table CacheDirectory Cleared Cleared.directory
  epochs : Pool -> Nat
  previews : Nat
  thumbnails : Nat
  now : Int
  held : List Reservation
  doomed : List CachePath
  cleaners : List CacheDirectory
  log : List CacheEntry

/-- Which accesses of the file system fail, and how much space it has left. -/
structure CacheFaults where
  walk : Bool
  remove : CachePath -> Bool
  rename : Bool
  touch : Bool
  available : Nat

/-- Files stand under their canonical paths. -/
def CacheLayout.Canonical (layout : CacheLayout) (files : CacheFiles) : Prop :=
  forall file, file ∈ files.items -> layout.normalize file.path.components = file.path.components

instance (layout : CacheLayout) (files : CacheFiles) : Decidable (layout.Canonical files) :=
  inferInstanceAs (Decidable (forall file, file ∈ files.items -> _))

def ioError : String := "IO error"

def cacheBusy : String := "CACHE_BUSY: Wait for current previews or clear disposable cache files"

def cacheCleared : String := "CANCELLED: The preview cache was cleared"

def spaceReserve : Nat := 128 * 1024 * 1024

def orphanAge : Int := 7 * 24 * 60 * 60

/-! ## Files -/

def kept (files : CacheFiles) (path : CachePath) : Bool :=
  path.extension == some "pin" || (files.find? (path.withExtension "pin")).isSome

/-- The files under a directory. -/
def entries (files : CacheFiles) (directory : CacheDirectory) : List CachedFile :=
  files.items.filter fun file => directory.isPrefixOf file.path.components

def CachedFile.isPartial (file : CachedFile) : Bool :=
  file.path.extension == some "part" || file.path.extension == some "source"

def CachedFile.isOld (file : CachedFile) (now : Int) : Bool :=
  file.modified.any fun modified => decide (orphanAge ≤ now - modified)

namespace CacheState

def limit (state : CacheState) (pool : Pool) : Nat := if pool.thumbnail then state.thumbnails else state.previews

/-- `configure` -/
def configure (state : CacheState) (previews thumbnails : Nat) : CacheState :=
  { state with
    previews := max previews 1
    thumbnails := max thumbnails 1 }

def reserved (state : CacheState) (pool : Pool) : Nat :=
  state.reservations.weight (fun reserved => decide (reserved.pool = pool)) Reserved.bytes

/-- A live reservation owns the path. -/
def owned (state : CacheState) (path : CachePath) : Bool :=
  (state.paths.find? path).any fun owner => (state.reservations.find? owner.token).isSome

/-- A file that pruning passes over. -/
def spares (state : CacheState) (files : CacheFiles) (preserve : Option CachePath) (file : CachedFile) : Bool :=
  kept files file.path || preserve == some file.path || (state.paths.find? file.path).isSome ||
    (file.isPartial && !file.isOld state.now)

/-- The loop of `prune`, with what is in use so far. -/
def pruneFiles (state : CacheState) (cap incoming : Nat) (preserve : Option CachePath) (faults : CacheFaults) :
    List CachedFile -> Nat -> CacheFiles -> Except String Nat × CacheFiles
  | [], used, files => (if cap < used + incoming then .error cacheBusy else .ok used, files)
  | file :: rest, used, files =>
    if used + incoming ≤ cap then (.ok used, files)
    else if state.spares files preserve file then pruneFiles state cap incoming preserve faults rest used files
    else if faults.remove file.path || (files.find? file.path).isNone then (.error ioError, files)
    else pruneFiles state cap incoming preserve faults rest (used - file.bytes) (files.erase file.path)

section Layout

variable (layout : CacheLayout) (state : CacheState)

/-- The files that `prune` looks at; a directory inside another one is walked twice. -/
def poolFiles (pool : Pool) : List CachedFile :=
  let legacy := if pool.thumbnail then
      (layout.legacyThumbnails.filter (·.2 = pool.root)).flatMap (entries state.files ·.1)
    else []
  (entries state.files pool.root ++ legacy).filter fun file => decide (layout.poolIn file.path.components = pool)

def prune (directory : CacheDirectory) (cap incoming : Nat) (preserve : Option CachePath) (faults : CacheFaults) :
    Except String Nat × CacheFiles :=
  if faults.walk then (.error ioError, state.files)
  else
    let pool := layout.poolIn directory
    let files := state.poolFiles layout pool
    let counted := files.filter fun file => !kept state.files file.path && !state.owned file.path
    let used := state.reserved pool + (counted.map CachedFile.bytes).sum
    state.pruneFiles cap incoming preserve faults
      (files.mergeSort fun one two => decide (one.modified.getD 0 ≤ two.modified.getD 0)) used state.files

def epoch (directory : CacheDirectory) : Nat := state.epochs (layout.poolIn directory)

/-- A directory above this one is being cleared. -/
def clearingAbove (directory : CacheDirectory) : Bool :=
  state.clearing.items.any fun cleared => cleared.directory.isPrefixOf directory

def valid (directory : CacheDirectory) (epoch : Nat) : Bool :=
  decide (state.epoch layout directory = epoch) && !state.clearingAbove directory

def check (directory : CacheDirectory) (token : String) (epoch : Nat) : Except String Unit :=
  let pool := layout.poolIn directory
  if !state.valid layout directory epoch || (state.reservations.find? token).isNone then .error cacheCleared
  else if state.limit pool < state.reserved pool then .error "CACHE_BUSY: The cache limit changed"
  else .ok ()

def reserve (directory : CacheDirectory) (token : String) (bytes : Nat) (faults : CacheFaults) :
    Except String Nat × CacheState :=
  let pool := layout.poolIn directory
  if state.clearingAbove directory then (.error "CANCELLED", state)
  else if state.limit pool < bytes then
    (.error "PREVIEW_TOO_LARGE: Increase the cache limit or keep the file offline", state)
  else
    let (result, files) := state.prune layout directory (state.limit pool) bytes none faults
    let pruned := { state with files := files }
    match result with
    | .error error => (.error error, pruned)
    | .ok _ =>
      (.ok (state.epoch layout directory),
        { pruned with
          reservations := state.reservations.insert ⟨token, pool, bytes⟩
          log := .reserved token directory :: state.log })

/-! ## Previews of a library -/

/-- What is drawn for a download: its token, and what its partial file is named after. -/
structure Drawn where
  token : String
  unique : String

/-- The partial file of a target. -/
def partOf (target : CachePath) (unique : String) : CachePath :=
  ⟨target.directory, target.stem ++ "." ++ unique, some "part"⟩

/-- `prepare_with_space`, behind the file that was there under the name. -/
def reserveTarget (target : CachePath) (expected : Nat) (drawn : Drawn) (faults : CacheFaults) :
    Except String Unit × CacheState :=
  if faults.available < expected + spaceReserve then
    (.error "Free up device storage before downloading this preview", state)
  else
    let part := partOf target drawn.unique
    let (result, next) := state.reserve layout layout.base drawn.token expected faults
    match result with
    | .error error => (.error error, next)
    | .ok epoch =>
      (.ok (),
        { next with
          paths := next.paths.insert ⟨part, drawn.token⟩
          held := ⟨layout.base, drawn.token, target, part, expected, epoch⟩ :: next.held })

/-- `prepare_with_space`, for a file name and a limit that was read before. -/
def prepare (owner : Int) (stem : String) (extension : Option String) (expected limit : Nat) (drawn : Drawn)
    (faults : CacheFaults) : Except String Unit × CacheState :=
  let target : CachePath := ⟨layout.base ++ [toString owner], stem, extension⟩
  if owner ≤ 0 then (.error "Invalid preview identity", state)
  else if limit < expected then
    (.error "This file exceeds the media cache limit; increase the limit or keep the file offline", state)
  else
    match state.files.find? target with
    | none => state.reserveTarget layout target expected drawn faults
    | some file =>
      if file.bytes = expected then
        let (result, files) := state.prune layout layout.base limit 0 (some target) faults
        match result with
        | .error error => (.error error, { state with files := files })
        | .ok _ =>
          if faults.touch then (.error ioError, { state with files := files })
          else
            (.ok (), { state with files := files.insert { file with modified := some state.now } })
      else if faults.remove target then (.error ioError, state)
      else ({ state with files := state.files.erase target }).reserveTarget layout target expected drawn faults

/-- `Reservation::finish` -/
def finish (reservation : Reservation) (faults : CacheFaults) : Except String Unit × CacheState :=
  match state.check layout reservation.root reservation.token reservation.epoch with
  | .error error => (.error error, state)
  | .ok () =>
    match state.files.find? reservation.part with
    | none => (.error ioError, state)
    | some file =>
      if file.bytes ≠ reservation.expected then (.error "The preview download is incomplete", state)
      else if faults.rename then (.error ioError, state)
      else
        (.ok (),
          { state with
            files := (state.files.erase reservation.part).insert { file with path := reservation.target }
            paths := state.paths.erase reservation.part
            reservations := state.reservations.erase reservation.token
            log := .published reservation.token (layout.poolIn reservation.root) :: state.log })

/-- `Drop for Reservation`, up to the release of the lock. -/
def giveUp (reservation : Reservation) : CacheState :=
  { state with
    paths :=
      if (state.paths.find? reservation.part).map OwnedPath.token = some reservation.token then
        state.paths.erase reservation.part
      else state.paths
    reservations := state.reservations.erase reservation.token
    doomed := reservation.part :: state.doomed }

/-! ## Clearing -/

/-- `Clearing::new` -/
def beginClearing (directory : CacheDirectory) : CacheState :=
  let pool := layout.poolIn directory
  { state with
    epochs := fun other => if other = pool then state.epochs pool + 1 else state.epochs other
    clearing := state.clearing.insert ⟨directory, ((state.clearing.find? directory).elim 0 Cleared.times) + 1⟩
    cleaners := directory :: state.cleaners
    log := .cleared pool :: state.log }

/-- `Drop for Clearing` -/
def endClearing (directory : CacheDirectory) : CacheState :=
  let clearing :=
    match state.clearing.find? directory with
    | none => state.clearing
    | some cleared =>
      if cleared.times - 1 = 0 then state.clearing.erase directory
      else state.clearing.insert ⟨directory, cleared.times - 1⟩
  { state with
    clearing := clearing
    cleaners := state.cleaners.erase directory }

/-- The deletions of `clear`, up to the first one that fails. -/
def clearFiles (faults : CacheFaults) : List CachedFile -> CacheFiles -> CacheFiles
  | [], files => files
  | file :: rest, files =>
    if kept files file.path then clearFiles faults rest files
    else if faults.remove file.path || (files.find? file.path).isNone then files
    else clearFiles faults rest (files.erase file.path)

end Layout

end CacheState

/-! ## Steps -/

/-- Calls that hold the lock, the life of the objects they return, and what happens to the
files without the lock: downloads write, pins come and go, the system deletes. -/
inductive CacheEvent
  | prepare (owner : Int) (stem : String) (extension : Option String) (expected limit : Nat)
      (drawn : CacheState.Drawn) (faults : CacheFaults)
  | reserve (directory : CacheDirectory) (token : String) (bytes : Nat) (faults : CacheFaults)
  | release (token : String)
  | finish (index : Nat) (faults : CacheFaults)
  | drop (index : Nat)
  | discard (index : Nat)
  | prune (directory : CacheDirectory) (cap incoming : Nat) (preserve : Option CachePath) (faults : CacheFaults)
  | configure (previews thumbnails : Nat)
  | beginClearing (directory : CacheDirectory)
  | clearFiles (directories : List CacheDirectory) (faults : CacheFaults)
  | endClearing (directory : CacheDirectory)
  | claim (path : CachePath) (token : String)
  | unclaim (path : CachePath)
  | outside (files : CacheFiles)
  | tick (now : Int)

section Steps

variable (layout : CacheLayout)

open CacheState

/-- Tokens and names that are drawn are new. -/
def CacheState.fresh (state : CacheState) (token : String) : Bool :=
  (state.reservations.find? token).isNone && !(state.held.any fun held => held.token == token) &&
    !(state.paths.items.any fun owner => owner.token == token)

def CacheState.step (state : CacheState) : CacheEvent -> Option CacheState
  | .prepare owner stem extension expected limit drawn faults =>
    let part := partOf ⟨layout.base ++ [toString owner], stem, extension⟩ drawn.unique
    if state.fresh drawn.token && (state.paths.find? part).isNone && !(state.held.any fun held => held.part == part) then
      some (state.prepare layout owner stem extension expected limit drawn faults).2
    else none
  | .reserve directory token bytes faults =>
    if (state.reservations.find? token).isSome || state.held.any fun held => held.token == token then none
    else some (state.reserve layout directory token bytes faults).2
  | .release token =>
    if state.held.any fun held => held.token == token then none
    else some { state with reservations := state.reservations.erase token }
  | .finish index faults => (state.held[index]?).map fun held => (state.finish layout held faults).2
  | .drop index =>
    (state.held[index]?).map fun held => { state.giveUp held with held := state.held.erase held }
  | .discard index =>
    (state.doomed[index]?).map fun part =>
      { state with
        files := state.files.erase part
        doomed := state.doomed.eraseIdx index }
  | .prune directory cap incoming preserve faults =>
    some { state with files := (state.prune layout directory cap incoming preserve faults).2 }
  | .configure previews thumbnails => some (state.configure previews thumbnails)
  | .beginClearing directory => some (state.beginClearing layout directory)
  | .clearFiles directories faults =>
    if state.cleaners = [] then none
    else
      some { state with files := clearFiles faults (directories.flatMap (entries state.files)) state.files }
  | .endClearing directory => if directory ∈ state.cleaners then some (state.endClearing directory) else none
  | .claim path token =>
    if state.held.any fun held => held.part == path || held.token == token then none
    else some { state with paths := state.paths.insert ⟨path, token⟩ }
  | .unclaim path =>
    if state.held.any fun held => held.part == path then none
    else some { state with paths := state.paths.erase path }
  | .outside files => if layout.Canonical files then some { state with files := files } else none
  | .tick now => if state.now ≤ now then some { state with now := now } else none

def cacheMachine : Machine CacheState CacheEvent where
  step := CacheState.step layout

end Steps

/-- Nothing is reserved or cleared; there may be files. -/
def CacheState.Starts (layout : CacheLayout) (state : CacheState) : Prop :=
  layout.Canonical state.files ∧ state.paths = .empty ∧ state.reservations = .empty ∧ state.clearing = .empty ∧
    state.held = [] ∧ state.cleaners = [] ∧ state.log = []

end Workspace
end TelegramDrive

import TelegramDrive.Transfers.Jobs

namespace TelegramDrive
namespace Transfers

/-!
# Download destinations

A queued download has a name reserved among the queued ones.  When it is
published, the name is tried again on the disk: `KeepBoth` goes on to numbered
names, `Skip` gives up, and `Replace` takes the name whatever is there.

Other programs create files at any time, also between the listing of a directory
and the attempts to move a file into it.
-/

/-! ## The disk -/

/-- What the code relies on of the platform.  Two names that a directory takes
for one have one lowercase form. -/
structure FileSystem where
  canonicalize : String -> Option String
  lowercase : String -> String
  isBlank : String -> Bool
  sameName : String -> String -> Bool
  sameName_refl : forall name, sameName name name = true
  sameName_lowercase : forall one two, sameName one two = true -> lowercase one = lowercase two

/-- Who wrote a file. -/
inductive FileOwner
  | other (number : Nat)
  | download (id : String)
deriving DecidableEq

/-- A file, in a canonical directory. -/
structure DiskFile where
  directory : String
  name : String
  owner : FileOwner
deriving DecidableEq

abbrev Disk : Type := List DiskFile

section Functions

variable (system : FileSystem)

/-- Whether a directory has a file of this name. -/
def Disk.holds (disk : Disk) (directory name : String) : Bool :=
  disk.any fun file => decide (file.directory = directory) && system.sameName file.name name

/-- Another program creates a file, where there is none. -/
def Disk.create (disk : Disk) (directory name : String) (number : Nat) : Disk :=
  if disk.holds system directory name then disk else ⟨directory, name, .other number⟩ :: disk

/-- The creation of a file by another program. -/
structure Creation where
  directory : String
  name : String
  number : Nat
deriving DecidableEq

def Disk.createAll (disk : Disk) (creations : List Creation) : Disk :=
  creations.foldl (fun disk made => disk.create system made.directory made.name made.number) disk

/-! ## Names -/

def maxNames : Nat := 10000

/-- `parent`. -/
def DownloadPath.directory (path : DownloadPath) : String :=
  if path.parent = "" then "." else path.parent

/-- The file stem and the extension of a name. -/
def splitExtension (name : String) : String × Option String :=
  let (back, rest) := name.toList.reverse.span fun char => char ≠ '.'
  match rest with
  | [] | [_] => (name, none)
  | _ :: stem => (String.ofList stem.reverse, some (String.ofList back.reverse))

def sibling (path : DownloadPath) (index : Nat) : DownloadPath :=
  if index = 0 then path
  else
    let (stem, extension) := splitExtension path.name
    let suffix := ((extension.filter fun name => name ≠ "").map ("." ++ ·)).getD ""
    ⟨path.directory, stem ++ " (" ++ toString index ++ ")" ++ suffix⟩

/-- The key of a name in a canonical directory. -/
def nameKey (directory name : String) : String :=
  system.lowercase directory ++ "\x00" ++ system.lowercase name

def destinationKey (path : DownloadPath) : Except String String :=
  if system.isBlank path.name then .error "Download destination has no filename"
  else
    match system.canonicalize path.directory with
    | none => .error "Download directory is unavailable"
    | some directory => .ok (nameKey system directory path.name)

/-- The lowercase names in the directory of a path. -/
def existingNames (disk : Disk) (path : DownloadPath) : Except String (List String) :=
  match system.canonicalize path.directory with
  | none => .error "Cannot inspect download directory"
  | some directory =>
    .ok ((disk.filter fun file => file.directory = directory).map fun file =>
      system.lowercase file.name)

/-! ## Reservation -/

/-- The names of `reserve_destination` from an index on. -/
def reserveFrom (path : DownloadPath) (names reserved : List String) :
    Nat -> Nat -> Except String (DownloadPath × List String)
  | 0, _ => .error "Could not reserve a unique download filename"
  | fuel + 1, index =>
    let candidate := sibling path index
    match destinationKey system candidate with
    | .error error => .error error
    | .ok key =>
      if key ∉ reserved ∧ system.lowercase candidate.name ∉ names then
        .ok (candidate, key :: reserved)
      else reserveFrom path names reserved fuel (index + 1)

def reserveDestination (disk : Disk) (path : DownloadPath) (policy : DownloadCollisionPolicy)
    (reserved : List String) : Except String (DownloadPath × List String) :=
  match (if policy = .keepBoth then existingNames system disk path else .ok []) with
  | .error error => .error error
  | .ok names => reserveFrom system path names reserved maxNames 0

/-- Whether `reserve_new_downloads` reserves a name for a job. -/
def TransferJob.reserves (job : TransferJob) (createdIds : List String) : Bool :=
  decide (job.direction = .download) && decide (job.id ∈ createdIds) && !job.status.isTerminal &&
    job.ownerId.isSome

def TransferJob.reserveAt (job : TransferJob) (path : DownloadPath) : TransferJob :=
  { job with
    filename := if job.origin.isNone then path.name else job.filename
    savePath := some path }

/-- The loop of `reserve_new_downloads`. -/
def reserveJobs (disk : Disk) (createdIds : List String) :
    List TransferJob -> List String -> Except String (List TransferJob)
  | [], _ => .ok []
  | job :: jobs, reserved =>
    if job.reserves createdIds then
      match job.savePath with
      | none => .error "Download destination is missing"
      | some path =>
        match reserveDestination system disk path job.collisionPolicy reserved with
        | .error error => .error error
        | .ok (path, reserved) =>
          (reserveJobs disk createdIds jobs reserved).map (job.reserveAt path :: ·)
    else (reserveJobs disk createdIds jobs reserved).map (job :: ·)

def reserveNewDownloads (disk : Disk) (jobs : List TransferJob) (createdIds : List String)
    (reservedPaths : List DownloadPath) : Except String (List TransferJob) :=
  reserveJobs system disk createdIds jobs
    (reservedPaths.filterMap fun path => (destinationKey system path).toOption)

/-! ## Publication -/

structure DownloadPublication where
  outcome : DownloadOutcome
  savePath : DownloadPath
deriving DecidableEq

inductive MoveError
  | alreadyExists
  | other
deriving DecidableEq

/-- The move of the finished download `id` to a path. -/
def moveFile (disk : Disk) (id : String) (path : DownloadPath) (policy : DownloadCollisionPolicy) :
    Except MoveError Disk :=
  match system.canonicalize path.directory with
  | none => .error .other
  | some directory =>
    if policy = .replace then
      .ok (⟨directory, path.name, .download id⟩ :: disk.filter fun file =>
        !(decide (file.directory = directory) && system.sameName file.name path.name))
    else if disk.holds system directory path.name then .error .alreadyExists
    else .ok (⟨directory, path.name, .download id⟩ :: disk)

/-- The names of `publish_with_move` from an index on.  `meanwhile` has what other
programs create before each attempt to move the file, and `stops` is the attempt
that fails for another reason. -/
def publishFrom (id : String) (destination : DownloadPath) (policy : DownloadCollisionPolicy)
    (names : List String) (stops : Option Nat) :
    Nat -> Nat -> List (List Creation) -> Disk -> Disk × Except String DownloadPublication
  | 0, _, _, disk => (disk, .error "Could not publish a unique download filename")
  | fuel + 1, index, meanwhile, disk =>
    let candidate := sibling destination index
    if policy ≠ .replace ∧ system.lowercase candidate.name ∈ names then
      if policy = .skip then (disk, .ok ⟨.skipped, destination⟩)
      else publishFrom id destination policy names stops fuel (index + 1) meanwhile disk
    else if stops = some index then (disk, .error "Failed to publish verified download")
    else
      let disk := disk.createAll system (meanwhile.headD [])
      match moveFile system disk id candidate policy with
      | .ok moved => (moved, .ok ⟨.saved, candidate⟩)
      | .error .alreadyExists =>
        if policy = .skip then (disk, .ok ⟨.skipped, destination⟩)
        else publishFrom id destination policy names stops fuel (index + 1) meanwhile.tail disk
      | .error .other => (disk, .error "Failed to publish verified download")

def publish (disk : Disk) (id : String) (destination : DownloadPath) (policy : DownloadCollisionPolicy)
    (meanwhile : List (List Creation)) (stops : Option Nat) :
    Disk × Except String DownloadPublication :=
  match existingNames system disk destination with
  | .error error => (disk, .error error)
  | .ok names => publishFrom system id destination policy names stops maxNames 0 meanwhile disk

/-- The part of `record_success_response` about a download. -/
def TransferJob.recordPublication (job : TransferJob) (publication : DownloadPublication) :
    TransferJob :=
  { job with
    downloadOutcome := some publication.outcome
    filename := publication.savePath.name
    savePath := some publication.savePath
    transferredBytes := if publication.outcome = .skipped then 0 else job.transferredBytes }

/-- The key of a destination, if it has one. -/
def TransferJob.key (job : TransferJob) : Option String :=
  job.savePath.bind fun path => (destinationKey system path).toOption

end Functions

/-! ## What reservation does -/

section Reservation

variable {system : FileSystem} {disk : Disk} {path : DownloadPath} {names reserved : List String}

theorem destinationKey_eq_ok {key : String} (found : destinationKey system path = .ok key) :
    Exists fun directory => system.canonicalize path.directory = some directory ∧
      key = nameKey system directory path.name := by
  unfold destinationKey at found
  split at found
  · cases found
  · split at found
    · cases found
    next directory canonical =>
      cases found
      exact ⟨directory, canonical, rfl⟩

theorem reserveFrom_ok {fuel index : Nat} {candidate : DownloadPath} {next : List String}
    (found : reserveFrom system path names reserved fuel index = .ok (candidate, next)) :
    Exists fun key => destinationKey system candidate = .ok key ∧ key ∉ reserved ∧
      next = key :: reserved := by
  induction fuel generalizing index with
  | zero => cases found
  | succ fuel ih =>
    unfold reserveFrom at found
    simp only at found
    split at found
    · cases found
    next key keyed =>
      split at found
      next fresh =>
        cases found
        exact ⟨key, keyed, fresh.1, rfl⟩
      · exact ih found

theorem reserveDestination_ok {policy : DownloadCollisionPolicy} {candidate : DownloadPath}
    {next : List String}
    (found : reserveDestination system disk path policy reserved = .ok (candidate, next)) :
    Exists fun key => destinationKey system candidate = .ok key ∧ key ∉ reserved ∧
      next = key :: reserved := by
  unfold reserveDestination at found
  generalize maxNames = fuel at found
  split at found
  · cases found
  · exact reserveFrom_ok found

/-- What reservation leaves of a job. -/
def TransferJob.core (job : TransferJob) :
    String × TransferDirection × TransferStatus × Option String :=
  (job.id, job.direction, job.status, job.ownerId)

/-- The jobs of a batch get keys that are new and differ from one another. -/
structure Reserved (system : FileSystem) (createdIds reserved : List String)
    (jobs result : List TransferJob) : Prop where
  same : result.map TransferJob.core = jobs.map TransferJob.core
  fresh : forall job, job ∈ result -> job.reserves createdIds = true ->
    Exists fun key => job.key system = some key ∧ key ∉ reserved
  apart : result.Pairwise fun one two => one.reserves createdIds = true ->
    two.reserves createdIds = true -> one.key system ≠ two.key system

theorem reserveJobs_ok {createdIds : List String} {jobs result : List TransferJob}
    (done : reserveJobs system disk createdIds jobs reserved = .ok result) :
    Reserved system createdIds reserved jobs result := by
  induction jobs generalizing reserved result with
  | nil =>
    cases done
    exact ⟨rfl, fun _ member => absurd member List.not_mem_nil, .nil⟩
  | cons job jobs ih =>
    unfold reserveJobs at done
    split at done
    · split at done
      · cases done
      · split at done
        · cases done
        next candidate next found =>
          rcases reserveDestination_ok found with ⟨key, keyed, fresh, rfl⟩
          cases rest : reserveJobs system disk createdIds jobs (key :: reserved) with
          | error error =>
            rw [rest] at done
            cases done
          | ok others =>
            rw [rest] at done
            cases done
            rcases ih rest with ⟨same, later, apart⟩
            have own : (job.reserveAt candidate).key system = some key := by
              change (destinationKey system candidate).toOption = some key
              rw [keyed]
              rfl
            refine ⟨congrArg (List.cons _) same, ?_, List.pairwise_cons.mpr ⟨?_, apart⟩⟩
            · intro other member reserves
              rcases List.mem_cons.mp member with rfl | inside
              · exact ⟨key, own, fresh⟩
              · rcases later other inside reserves with ⟨found, its, absent⟩
                exact ⟨found, its, fun listed => absent (List.mem_cons_of_mem _ listed)⟩
            · intro other inside _ reserves
              rcases later other inside reserves with ⟨found, its, absent⟩
              rw [own, its]
              intro equal
              exact absent (Option.some.inj equal ▸ List.mem_cons_self)
    next unreserved =>
      cases rest : reserveJobs system disk createdIds jobs reserved with
      | error error =>
        rw [rest] at done
        cases done
      | ok others =>
        rw [rest] at done
        cases done
        rcases ih rest with ⟨same, later, apart⟩
        refine ⟨congrArg (List.cons _) same, ?_, List.pairwise_cons.mpr ⟨?_, apart⟩⟩
        · intro other member reserves
          rcases List.mem_cons.mp member with rfl | inside
          · exact absurd reserves unreserved
          · exact later other inside reserves
        · exact fun _ _ reserves => absurd reserves unreserved

end Reservation

/-! ## What publication does -/

section Publication

variable {system : FileSystem} {disk : Disk}

variable {directory id : String}

theorem create_keeps {name : String} {number : Nat} {file : DiskFile} (member : file ∈ disk) :
    file ∈ disk.create system directory name number := by
  unfold Disk.create
  split
  · exact member
  · exact List.mem_cons_of_mem _ member

theorem mem_create {name : String} {number : Nat} {file : DiskFile}
    (member : file ∈ disk.create system directory name number) :
    file ∈ disk ∨ Exists fun number => file.owner = .other number := by
  unfold Disk.create at member
  split at member
  · exact .inl member
  · rcases List.mem_cons.mp member with rfl | old
    · exact .inr ⟨number, rfl⟩
    · exact .inl old

theorem createAll_keeps {creations : List Creation} {file : DiskFile} (member : file ∈ disk) :
    file ∈ disk.createAll system creations := by
  induction creations generalizing disk with
  | nil => exact member
  | cons made creations ih => exact ih (create_keeps member)

theorem mem_createAll {creations : List Creation} {file : DiskFile}
    (member : file ∈ disk.createAll system creations) :
    file ∈ disk ∨ Exists fun number => file.owner = .other number := by
  induction creations generalizing disk with
  | nil => exact .inl member
  | cons made creations ih =>
    rcases ih member with inside | other
    · exact mem_create inside
    · exact .inr other

/-- What a publication leaves.  The files of others are from before or newly
created by other programs; only `Replace` takes files away, which are those
of the destination. -/
structure Publishes (system : FileSystem) (id : String) (destination : DownloadPath)
    (policy : DownloadCollisionPolicy) (disk : Disk) (result : Disk × Except String DownloadPublication) :
    Prop where
  files : forall file, file ∈ result.1 -> file ∈ disk ∨
    (Exists fun number => file.owner = .other number) ∨
    Exists fun index => Exists fun directory =>
      result.2 = .ok ⟨.saved, sibling destination index⟩ ∧
      system.canonicalize destination.directory = some directory ∧
      file = ⟨directory, (sibling destination index).name, .download id⟩ ∧
      (index = 0 ∨ (policy = .keepBoth ∧ 0 < index ∧ index < maxNames))
  keeps : forall file, file ∈ disk -> file ∈ result.1 ∨
    (policy = .replace ∧ system.canonicalize destination.directory = some file.directory ∧
      system.lowercase file.name = system.lowercase destination.name)

theorem Publishes.refl (id : String) (destination : DownloadPath) (policy : DownloadCollisionPolicy)
    (outcome : Except String DownloadPublication) :
    Publishes system id destination policy disk (disk, outcome) :=
  ⟨fun _ => .inl, fun _ => .inl⟩

variable {destination : DownloadPath} {policy : DownloadCollisionPolicy}

theorem Publishes.created {result : Disk × Except String DownloadPublication} (creations : List Creation)
    (publishes : Publishes system id destination policy (disk.createAll system creations) result) :
    Publishes system id destination policy disk result := by
  refine ⟨fun file member => ?_, fun file member => publishes.keeps file (createAll_keeps member)⟩
  rcases publishes.files file member with old | rest
  · rcases mem_createAll old with before | other
    · exact .inl before
    · exact .inr (.inl other)
  · exact .inr rest

variable {meanwhile : List (List Creation)}

variable {publication : DownloadPublication}

end Publication

end Transfers
end TelegramDrive

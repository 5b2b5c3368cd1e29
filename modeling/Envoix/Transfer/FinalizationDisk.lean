import Envoix.Transfer.Finalization

/-! # The disk under a finalisation

What the calls of a finalisation find and do.  Others may put, replace and remove objects in the
target directory before any call; the private places and the ledger are the application's.  A
`Choice` tells what else happens around one call, and a run is given one for every call. -/

namespace Envoix.Transfer.Finalization

open ByteCodec Fallible Process Process.Method Envoix.Protocol FileSystem

structure StoredObject where
  tree : FileTree
  volume : UInt64
  object : UInt64

def StoredObject.identity (stored : StoredObject) : LinkIdentity where
  isSymlink := stored.tree matches .symlink
  volume := stored.volume
  object := stored.object

/-- What happens around one call: what others do in the target directory before it, whether it
fails, what a failed copy or removal leaves, whether a failed write took place, and what is drawn
and read. -/
structure Choice where
  meanwhile : List (String × Option StoredObject)
  fails : Option IoError
  leaves : Option StoredObject
  volume : UInt64
  object : UInt64
  tookPlace : Bool
  key : ByteVector 16
  reads : UInt32 → Bytes

/-- `moved` records the renames into the target directory, and `harmed` the names of objects that a
call has overwritten, removed or taken away there. -/
structure World where
  objects : Place → Option StoredObject
  reservations : List Path
  ledger : Option (List RootSaveStateV2)
  moved : List (Place × String × StoredObject)
  harmed : List String
  choices : Nat → Choice
  turn : Nat

def put (objects : Place → Option StoredObject) (place : Place) (object : Option StoredObject) :
    Place → Option StoredObject :=
  fun other => if other = place then object else objects other

@[simp] theorem put_self (objects : Place → Option StoredObject) (place : Place)
    (object : Option StoredObject) :
    put objects place object place = object := if_pos rfl

@[simp] theorem put_of_ne {objects : Place → Option StoredObject} {place other : Place}
    {object : Option StoredObject} (differs : other ≠ place) :
    put objects place object other = objects other := if_neg differs

namespace World

def choice (world : World) : Choice := world.choices world.turn

/-- What others do before the next call. -/
def next (world : World) : World :=
  { world with
    objects :=
      world.choice.meanwhile.foldl (fun objects (name, object) => put objects (.target name) object)
        world.objects
    turn := world.turn + 1 }

/-- A call stores or removes an object. -/
def store (world : World) (place : Place) (object : Option StoredObject) : World :=
  { world with
    objects := put world.objects place object
    harmed := match place with
      | .target name =>
        if (world.objects place).isSome then world.harmed ++ [name] else world.harmed
      | .staging _ | .copyRoot _ | .copyPartial _ => world.harmed }

/-- A rename onto a free place. -/
def move (world : World) (source destination : Place) (object : StoredObject) : World :=
  let left := (world.store source none).store destination (some object)
  match destination with
  | .target name => { left with moved := left.moved ++ [(source, name, object)] }
  | .staging _ | .copyRoot _ | .copyPartial _ => left

end World

/-- The reply of a call that does what it should unless it is chosen to fail. -/
def Choice.reply {α : Type} (choice : Choice) (value : α) : Except IoError α :=
  match choice.fails with
  | none => .ok value
  | some error => .error error

/-- The reply to a call, and the disk after it. -/
def answer (op : CommitOp) (world : World) : CommitReply op × World :=
  let choice := world.choice
  let world := world.next
  match op with
  | .tryExists place => (choice.reply (world.objects place).isSome, world)
  | .symlinkMetadata place =>
    match world.objects place with
    | none => (.error .notFound, world)
    | some stored => (choice.reply stored.identity, world)
  | .readTree place =>
    match world.objects place with
    | none => (.error .notFound, world)
    | some stored => (choice.reply stored.tree, world)
  | .removePrivateStagingPath place =>
    match world.objects place, choice.fails with
    | none, _ => (choice.reply (), world)
    | some _, none => (.ok (), world.store place none)
    | some _, some error => (.error error, world.store place choice.leaves)
  | .copyTree source destination =>
    match world.objects source, choice.fails with
    | none, _ => (.error .notFound, world)
    | some stored, none =>
      (.ok (), world.store destination (some ⟨stored.tree, choice.volume, choice.object⟩))
    | some _, some error => (.error error, world.store destination choice.leaves)
  | .syncTreeDirectories place =>
    match world.objects place with
    | none => (.error .notFound, world)
    | some stored =>
      if stored.identity.isSymlink then (.error (.other "staging root is a symbolic link"), world)
      else (choice.reply (), world)
  | .exclusiveRename source destination =>
    match world.objects source, world.objects destination, choice.fails with
    | none, _, _ => (.error (.io .notFound), world)
    | some _, some _, _ => (.error .alreadyExists, world)
    | some stored, none, none => (.ok (), world.move source destination stored)
    | some _, none, some error => (.error (.io error), world)
  | .syncRenameDirectories _ _ => (choice.reply (), world)
  | .reservationExists path => (choice.reply (decide (path ∈ world.reservations)), world)
  | .removeReservation path =>
    if path ∉ world.reservations then (.error .notFound, world)
    else
      match choice.fails with
      | none => (.ok (), { world with reservations := world.reservations.filter (· ≠ path) })
      | some error => (.error error, world)
  | .saveEffectLedger roots =>
    match choice.fails with
    | none => (.ok (), { world with ledger := some roots })
    | some error =>
      (.error error, if choice.tookPlace then { world with ledger := some roots } else world)
  | .fillRandom => (choice.reply choice.key, world)
  | .readReuse entryId => (choice.reply (choice.reads entryId), world)

def diskContract : Contract CommitOp CommitReply World where
  may world op reply := reply = (answer op world).1
  after world op _ := (answer op world).2
  keeps _ := True

/-! ## Runs -/

/-- What stays the same from one attempt to the next. -/
structure Job where
  plan : DestinationWritePlanV2
  manifest : ManifestV2
  entryPaths : List Path
  entryOverrides : List (Option String)
  verifiedEntries : List VerifiedEntryV2
  paths_complete : entryPaths.length = manifest.entries.length

/-- The ledger that a provider starts from. -/
def World.roots (job : Job) (world : World) : List RootSaveStateV2 :=
  world.ledger.getD (List.replicate job.manifest.roots.length .pending)

/-- A provider of the job that has read the ledger, and has opened the objects that stand in for
entries. -/
structure Restored (job : Job) (reuses : List (UInt32 × ReuseObject)) (world : World)
    (state : Committing) : Prop where
  plan : state.provider.plan = job.plan
  manifest : state.provider.manifest = job.manifest
  overrides : state.entryOverrides = job.entryOverrides
  reuses : state.provider.reuseObjects = reuses
  roots : state.provider.saveRoots = world.roots job

/-- Before any attempt: nothing has been saved.  The places may hold anything. -/
structure World.Fresh (world : World) : Prop where
  ledger : world.ledger = none
  moved : world.moved = []
  harmed : world.harmed = []

section Reached

variable [Blake3]

/-- The disks of a job: after any attempts to commit it, each cut anywhere, by a failure or by the
end of the process.  The next attempt restores its provider from the ledger. -/
inductive Reached (job : Job) (start : World) : World → Prop where
  | start : Reached job start start
  | attempt {world after : World} {state : Committing} {reuses : List (UInt32 × ReuseObject)}
      {rest : Proc CommitOp CommitReply (Except CommitFailure (List SavedEntryV2) × Committing)}
      (reached : Reached job start world) (restored : Restored job reuses world state)
      (run : Proc.Reaches diskContract ((commitJob job.manifest job.verifiedEntries).runOn state)
        world rest after) :
      Reached job start after
  | others {world : World} (reached : Reached job start world) : Reached job start world.next

end Reached

/-! ## What others leave alone -/

def Place.isPrivate : Place → Bool
  | .target _ => false
  | .staging _ | .copyRoot _ | .copyPartial _ => true

namespace World

theorem next_objects {world : World} {place : Place} (alone : place.isPrivate = true) :
    world.next.objects place = world.objects place := by
  suffices others : ∀ (moves : List (String × Option StoredObject))
      (objects : Place → Option StoredObject),
      moves.foldl (fun objects (name, object) => put objects (.target name) object) objects place =
        objects place from
    others _ _
  intro moves
  induction moves with
  | nil => exact fun _ => rfl
  | cons first rest ih =>
    intro objects
    refine (ih _).trans (put_of_ne ?_)
    rintro rfl
    cases alone

/-- Others never do anything under this name. -/
def Untouched (world : World) (name : String) : Prop :=
  ∀ turn object, (name, object) ∉ (world.choices turn).meanwhile

theorem next_target {world : World} {name : String} (untouched : world.Untouched name) :
    world.next.objects (.target name) = world.objects (.target name) := by
  suffices others : ∀ (moves : List (String × Option StoredObject))
      (objects : Place → Option StoredObject),
      (∀ object, (name, object) ∉ moves) →
      moves.foldl (fun objects (name, object) => put objects (.target name) object) objects
        (.target name) =
        objects (.target name) from
    others _ _ (untouched world.turn)
  intro moves
  induction moves with
  | nil => exact fun _ _ => rfl
  | cons first rest ih =>
    intro objects avoids
    refine (ih _ fun object listed => avoids object (List.mem_cons_of_mem _ listed)).trans
      (put_of_ne ?_)
    intro same
    refine avoids first.2 ?_
    rw [Place.target.inj same]
    exact List.mem_cons_self

@[simp] theorem next_ledger (world : World) : world.next.ledger = world.ledger := rfl
@[simp] theorem next_moved (world : World) : world.next.moved = world.moved := rfl
@[simp] theorem next_harmed (world : World) : world.next.harmed = world.harmed := rfl
@[simp] theorem next_reservations (world : World) :
    world.next.reservations = world.reservations := rfl
@[simp] theorem next_choices (world : World) : world.next.choices = world.choices := rfl

@[simp] theorem store_ledger (world : World) (place : Place) (object : Option StoredObject) :
    (world.store place object).ledger = world.ledger := rfl
@[simp] theorem store_moved (world : World) (place : Place) (object : Option StoredObject) :
    (world.store place object).moved = world.moved := rfl
@[simp] theorem store_objects (world : World) (place : Place) (object : Option StoredObject) :
    (world.store place object).objects = put world.objects place object := rfl
@[simp] theorem store_reservations (world : World) (place : Place) (object : Option StoredObject) :
    (world.store place object).reservations = world.reservations := rfl

@[simp] theorem next_turn (world : World) : world.next.turn = world.turn + 1 := rfl

@[simp] theorem store_choices (world : World) (place : Place) (object : Option StoredObject) :
    (world.store place object).choices = world.choices := rfl
@[simp] theorem store_turn (world : World) (place : Place) (object : Option StoredObject) :
    (world.store place object).turn = world.turn := rfl

@[simp] theorem move_objects (world : World) (source destination : Place) (object : StoredObject) :
    (world.move source destination object).objects =
      put (put world.objects source none) destination (some object) := by
  cases destination <;> rfl

@[simp] theorem move_choices (world : World) (source destination : Place) (object : StoredObject) :
    (world.move source destination object).choices = world.choices := by
  cases destination <;> rfl

@[simp] theorem move_turn (world : World) (source destination : Place) (object : StoredObject) :
    (world.move source destination object).turn = world.turn := by
  cases destination <;> rfl

/-- Storing in a private place, or in a free one, harms nothing. -/
theorem store_harmed {world : World} {place : Place} {object : Option StoredObject}
    (harmless : place.isPrivate = true ∨ world.objects place = none) :
    (world.store place object).harmed = world.harmed := by
  cases place with
  | target name =>
    obtain alone | free := harmless
    · cases alone
    · simp [store, free]
  | staging | copyRoot | copyPartial => rfl

end World

end Envoix.Transfer.Finalization

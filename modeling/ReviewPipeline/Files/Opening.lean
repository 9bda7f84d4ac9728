import ReviewPipeline.Database.Schema
import ReviewPipeline.Files
import ReviewPipeline.Files.Address

/-!
# Opening a Database

Opening a database finds its file, makes it if it may, and brings it to the current schema. While a
database is open, up to three files stand beside it: the journal, the log, and the index of the
log. They are gone when it is closed, but may have been left behind, or something else may stand in
their place; what opening makes of that depends on whether the database already holds anything.

The path of a database is first made one from the root, name by name. Other than for every other
file, two dots then undo the name before them whether it names something or not.
-/

namespace ReviewPipeline

/-- A file that stands beside a database. -/
inductive Companion where
  /-- What a change overwrites. -/
  | journal
  /-- The changes that are not carried over yet. -/
  | log
  /-- Where to find what in the log. -/
  | index
  deriving DecidableEq, Repr

namespace Companion

/-- What the name of a companion adds to the one of the database. -/
def ending : Companion → String
  | journal => "-journal"
  | log => "-wal"
  | index => "-shm"

/-- The location of a companion of the database at a location. -/
def location (companion : Companion) (database : Location) : Location :=
  match database.getLast? with
  | some name => database.dropLast ++ [name ++ companion.ending]
  | none => database

end Companion

/-- What is found in the place of a companion. -/
inductive Found where
  /-- Nothing. -/
  | nothing
  /-- An empty file, which mostly counts as nothing. -/
  | empty
  /-- A file that holds something. -/
  | held (content : Content)
  /-- A directory. -/
  | directory
  deriving DecidableEq, Repr

namespace Content

/-- Whether there is nothing in a file. -/
def isEmpty : Content → Bool
  | text s => s.isEmpty
  | _ => false

/-- Whether a file counts as a database without anything in it, because it has at most one byte. -/
def isBlank : Content → Bool
  | text s => s.utf8ByteSize ≤ 1
  | _ => false

/-- Whether the first byte of a file is zero. -/
def beginsWithNul : Content → Bool
  | text s => s.toList.head? == some '\x00'
  | _ => false

/-- Whether a file begins like a log with a mark in its head: it has at least 32 bytes, and those
from the 17th to the 24th are not all zero. -/
def hasLogMark : Content → Bool
  | text s =>
    let bytes := s.toUTF8.toList
    32 ≤ bytes.length && ((bytes.drop 16).take 8).any (· != 0)
  | _ => true

end Content

/-- What a connection to a database has found, before anything is read from it. -/
inductive Connected where
  /-- A database of its own, in no file. -/
  | transient (address : Address)
  /-- A file. -/
  | file (location : Location) (address : Address) (content : Content)
  /-- A directory. -/
  | directory
  deriving Repr

/-- A database that is open. -/
structure Opened where
  /-- The database. -/
  database : Database
  /-- The location of its file, if it is in one. -/
  location : Option Location
  /-- How it is journaled. -/
  journaling : Journaling
  deriving Repr

namespace Files

/-- The files that stand beside a database at a path while it is open, without the journal. -/
def sideFiles (path : String) : List String :=
  [path ++ Companion.log.ending, path ++ Companion.index.ending]

/-! ## Finding the file -/

/-- The greatest length in bytes of the path of a database from the root. -/
def longestDatabasePath : Nat := 504

/-- The greatest length in bytes that such a path may have on the way. -/
def longestTrace : Nat := 511

/-- Follow the names of the path of a database. Nothing need be there, but a file on the way or a
name that is too long is refused. -/
def trace (files : Files) (location : Location) : List String → Option Location
  | [] => some location
  | name :: names =>
    if name = "." then files.trace location names
    else if name = ".." then files.trace location.dropLast names
    else
      -- What is not there yet is passed, as the file itself may be missing.
      let next := location ++ [name]
      if longestTrace < next.size then none
      else
        match files.follow [] next with
        | .ok _ | .error .missing => files.trace next names
        | .error _ => none

/-- The location that the path of a database leads to. -/
def databaseLocation (files : Files) (path : String) : Option Location :=
  (files.trace (files.start path) (Path.names path)).filter fun location =>
    !location.isEmpty && location.size ≤ longestDatabasePath

/-! ## Companions -/

/-- What is found in the place of a companion. -/
def found (files : Files) (database : Location) (companion : Companion) : Found :=
  match files.at? (companion.location database) with
  | none => .nothing
  | some .directory => .directory
  | some (.file content) => if content.isEmpty then .empty else .held content

/-- Remove a companion, if it is a file. -/
def discard (files : Files) (database : Location) (companion : Companion) : Files :=
  match files.found database companion with
  | .empty | .held _ => files.drop (companion.location database)
  | .nothing | .directory => files

/-- Remove a companion, if it is a file that holds something. -/
def discardHeld (files : Files) (database : Location) (companion : Companion) : Files :=
  match files.found database companion with
  | .held _ => files.drop (companion.location database)
  | _ => files

/-- Make a companion as an empty file, if there is nothing in its place. -/
def provide (files : Files) (database : Location) (companion : Companion) : Files :=
  match files.found database companion with
  | .nothing => files.put (companion.location database) (.file (.text ""))
  | _ => files

/-- Write the index of a log that was read. -/
def writeIndex (files : Files) (database : Location) : Files :=
  match files.found database .index with
  | .directory => files
  | _ => files.put (Companion.index.location database) (.file .binary)

/-- Whether the index of a database cannot be had, since a directory is in its place. -/
def lacksIndex (files : Files) (database : Location) (layer : Layer) : Bool :=
  layer = .shared && files.found database .index = .directory

/-- Whether the journal of a database cannot be made. -/
def lacksJournal (files : Files) (database : Location) : Bool :=
  files.found database .journal = .directory
    || longestName < ((Companion.journal.location database).getLastD "").utf8ByteSize

/-- Remove the log and the index as a database is closed. -/
def discardLog (files : Files) (database : Location) (layer : Layer) : Files :=
  let files := files.discard database .log
  if layer = .shared then files.discard database .index else files

/-! ## Opening -/

/-- Bring a database that can be written to the current schema. -/
def bringUp (files : Files) (location : Location) (db : Database) (journaling : Journaling)
    (now : Int) : Except Error Opened × Files :=
  match db.applySchema now with
  | .error e => (.error e, files)
  | .ok db =>
    (.ok ⟨db, some location, journaling⟩, files.put location (.file (.database db journaling)))

/-- Open a database from a file with nothing in it. What an earlier database left beside it goes
first; then the file becomes a database without any table, for which the journal is needed, and
then it gets its tables by way of the log. -/
def openBlank (files : Files) (location : Location) (address : Address) (now : Int) :
    Except Error Opened × Files :=
  -- A journal with something in it cannot belong to a file with nothing in it, and is thrown away
  -- unread.
  let isReadOnly := address.access = .readOnly
  let files :=
    if address.layer = .lockFile || (isReadOnly && address.layer.keepsLog) then files
    else files.discardHeld location .journal
  if files.found location .log = .directory then (.error (.database .inputOutput), files)
  else
    let files := files.discardHeld location .log
    if isReadOnly then (.error (.database .readOnly), files)
    else if files.lacksJournal location then (.error (.database .cannotOpenBeside), files)
    else
      let files := files.discard location .journal
      if !address.layer.keepsLog then files.bringUp location {} .rollback now
      else if files.lacksIndex location address.layer then
        -- The file is a database by now, but its tables would have to go through the log.
        (.error (.database .readOnly),
          (files.put location (.file (.database {} .ahead))).provide location .log)
      else (files.discardLog location address.layer).bringUp location {} .ahead now

/-- Read a log that was left behind, before anything else is looked at. -/
def readLog (files : Files) (location : Location) (layer : Layer) : Except Fault Unit :=
  match files.found location .log with
  | .nothing | .empty => .ok ()
  | .directory => .error .cannotOpenBeside
  | .held content =>
    if !layer.keepsLog then .error .cannotOpenBeside
    else if files.lacksIndex location layer && content.hasLogMark then .error .lockingProtocol
    else .ok ()

/-- Whether there is a log to read. -/
def hasLog (files : Files) (location : Location) : Bool :=
  match files.found location .log with
  | .held _ => true
  | _ => false

/-- Find that a file with something in it is no database. If there was a log, it has been opened. -/
def refuse (files : Files) (location : Location) (address : Address) :
    Except Error Opened × Files :=
  let files :=
    if !files.hasLog location || files.lacksIndex location address.layer then files
    else if address.access = .readOnly then
      if address.layer = .shared then files.writeIndex location else files
    else files.discardLog location address.layer
  (.error (.database .notADatabase), files)

/-- Open a database, once its journal is dealt with and its log can be read. -/
def openHeld (files : Files) (location : Location) (address : Address) (db : Database)
    (journaling : Journaling) (now : Int) : Except Error Opened × Files :=
  let isReadOnly := address.access = .readOnly
  let usesLog := journaling = .ahead || files.hasLog location
  if !address.layer.keepsLog then
    -- Without an index a database that is journaled ahead of its file is out of reach.
    if journaling = .ahead then (.error (.database .cannotOpenBeside), files)
    else if isReadOnly then (.error (.database .readOnly), files)
    else files.bringUp location db .rollback now
  else if isReadOnly then
    let files :=
      if usesLog then
        let files := files.provide location .log
        if address.layer = .shared then files.writeIndex location else files
      else files
    (.error (.database .readOnly), files)
  else
    let files := if usesLog then files else files.discard location .journal
    -- A database without a log takes one up; one with a log keeps the way it was journaled.
    let journaling := if files.hasLog location then journaling else .ahead
    if files.lacksIndex location address.layer then
      (.error (.database .readOnly),
        (files.put location (.file (.database db journaling))).provide location .log)
    else (files.discardLog location address.layer).bringUp location db journaling now

/-- Undo what a journal that was left behind holds, unless its first byte says that there is nothing
to undo. -/
def undo (files : Files) (location : Location) (address : Address) : Except Fault Files :=
  if address.layer = .lockFile then .ok files
  else
    match files.found location .journal with
    | .directory => .error .inputOutput
    | .held journal =>
      if journal.beginsWithNul then .ok files
      else if address.access = .readOnly then .error .readOnly
      else .ok (files.discard location .journal)
    | .nothing | .empty => .ok files

/-- Open a database from a file with something in it. A journal that was left behind is undone
first. -/
def openFilled (files : Files) (location : Location) (address : Address) (content : Content)
    (now : Int) : Except Error Opened × Files :=
  match files.undo location address with
  | .error fault => (.error (.database fault), files)
  | .ok files =>
    match files.readLog location address.layer, content with
    | .error fault, _ => (.error (.database fault), files)
    | .ok (), .database db journaling => files.openHeld location address db journaling now
    | .ok (), _ => files.refuse location address

/-- Why a file that nobody changes cannot be opened: whatever stands beside it is not looked at, but
it cannot be brought to the current schema. -/
def frozenFault (content : Content) : Fault :=
  match content with
  | .database _ _ => .readOnly
  | content => if content.isBlank then .readOnly else .notADatabase

/-- Open a database from a file. -/
def openFile (files : Files) (location : Location) (address : Address) (content : Content)
    (now : Int) : Except Error Opened × Files :=
  if address.isFrozen then (.error (.database (frozenFault content)), files)
  else if content.isBlank then files.openBlank location address now
  else files.openFilled location address content now

/-- Connect to the database that has a name, before anything is read from it: find what is there,
and make an empty file if there is nothing and it may be made. A directory is told only when it is
read. -/
def connect (files : Files) (name : String) : Except Error Connected × Files :=
  match Address.ofName? name with
  | .error fault => (.error (.database fault), files)
  | .ok address =>
    if address.isTransient then (.ok (.transient address), files)
    else
      let refusal : Except Error Connected × Files := (.error (.database (.cannotOpen name)), files)
      match files.databaseLocation address.path with
      | none => refusal
      | some location =>
        match files.at? location with
        | some (.file content) => (.ok (.file location address content), files)
        | some .directory =>
          if address.access = .readOnly then (.ok .directory, files) else refusal
        -- Only the file may be missing, not the directory that it is to be in.
        | none =>
          if address.access = .create && files.at? location.dropLast = some .directory then
            (.ok (.file location address (.text "")), files.put location (.file (.text "")))
          else refusal

/-- Open what a connection has found: bring it to the current schema. -/
def openConnected (files : Files) (now : Int) : Connected → Except Error Opened × Files
  | .transient address =>
    if address.access = .readOnly then (.error (.database .readOnly), files)
    else (.ok ⟨Database.create now, none, .ahead⟩, files)
  | .file location address content => files.openFile location address content now
  | .directory => (.error (.database .inputOutput), files)

/-- The longest wait for a locked database, in milliseconds: what a connection is told has to fit
into a signed 32-bit integer. -/
def longestWait : Nat := 2147483647

/-- The wait for a locked database where the settings name none, in milliseconds. -/
def defaultWait : Nat := 5000

/-- Open the database that has a name. As soon as it is connected to, it is told how long to wait
while it is locked; the program breaks off if that is too long. -/
def openDatabase (files : Files) (name : String) (now : Int) (wait : Nat := defaultWait) :
    Except Error Opened × Files :=
  match files.connect name with
  | (.error e, files) => (.error e, files)
  | (.ok connected, files) =>
    if longestWait < wait then (.error (.crashed .waitTooLong), files)
    else files.openConnected now connected

/-- Write an open database back to its file, if it is in one. -/
def save (files : Files) (opened : Opened) (db : Database) : Files :=
  match opened.location with
  | none => files
  | some location => files.put location (.file (.database db opened.journaling))

end Files

end ReviewPipeline

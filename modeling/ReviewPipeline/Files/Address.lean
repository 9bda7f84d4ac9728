import ReviewPipeline.Fault

/-!
# Addresses of Databases

A database is named by a path, or by an address: a URI of the scheme `file`. An address can say, in
the options after its question mark, what the database is opened for and how its files are used.
Its escapes, a percent sign with two hexadecimal digits, stand for bytes; the byte zero ends the
part that it stands in.
-/

namespace ReviewPipeline

/-- What a database is opened for. -/
inductive Access where
  /-- To be read only. -/
  | readOnly
  /-- To be read and written, if it is there. -/
  | readWrite
  /-- To be read and written; it is made if it is not there. -/
  | create
  /-- To be kept in memory, and forgotten when it is closed. -/
  | memory
  deriving DecidableEq, Repr

namespace Access

/-- The words for what a database is opened for. -/
def words : List (String × Access) :=
  [("ro", readOnly), ("rw", readWrite), ("rwc", create), ("memory", memory)]

/-- How much an access allows. An access in memory is above the others, and can always be had. -/
def rank : Access → Nat
  | readOnly => 1
  | readWrite => 2
  | create => 3
  | memory => 4

/-- Whether an access may be asked for where another one was asked for before. -/
def isWithin (access before : Access) : Bool :=
  access = memory || access.rank ≤ before.rank

end Access

/-- How the file system is used. -/
inductive Layer where
  /-- An index file beside the database is shared by all that have it open. -/
  | shared
  /-- One user at a time, who keeps the index to himself. -/
  | exclusive
  /-- Without an index, so that no log can be kept. -/
  | plain
  /-- Without an index, and with a file in place of locks. The user's own lock looks like the one of
  a change that is under way, so no journal is taken for one that was left behind. -/
  | lockFile
  /-- Not at all: databases are in memory. -/
  | memory
  deriving DecidableEq, Repr

namespace Layer

/-- The words for how the file system is used. -/
def words : List (String × Layer) :=
  [("unix", shared), ("unix-excl", exclusive), ("unix-none", plain), ("unix-dotfile", lockFile),
    ("memdb", memory)]

/-- Whether databases keep a log. -/
def keepsLog : Layer → Bool
  | shared | exclusive => true
  | plain | lockFile | memory => false

/-- How the file system is used for an access: to read only, the index is always shared. -/
def forAccess (layer : Layer) (access : Access) : Layer :=
  if layer = .exclusive ∧ access = .readOnly then .shared else layer

end Layer

/-- The address of a database. -/
structure Address where
  /-- The path, which is empty for a private database in no file. -/
  path : String
  /-- What the database is opened for. -/
  access : Access := .create
  /-- How the file system is used. -/
  layer : Layer := .shared
  /-- Whether the file is taken for one that nobody changes. -/
  isFrozen : Bool := false
  deriving DecidableEq, Repr

namespace Address

/-- The path of a database that is kept in memory. -/
def memoryPath : String := ":memory:"

/-- Whether the database is in no file: it is new each time it is opened, and forgotten
afterwards. -/
def isTransient (address : Address) : Bool :=
  address.path.isEmpty || address.path = memoryPath || address.access = .memory
    || address.layer = .memory

/-! ## Escapes -/

/-- The value of a hexadecimal digit. -/
def hexValue? (c : Char) : Option Nat :=
  if '0' ≤ c ∧ c ≤ '9' then some (c.toNat - 48)
  else if 'a' ≤ c ∧ c ≤ 'f' then some (c.toNat - 87)
  else if 'A' ≤ c ∧ c ≤ 'F' then some (c.toNat - 55)
  else none

/-- The byte that two characters after a percent sign stand for. -/
def escaped? (high low : Char) : Option Nat := do
  return 16 * (← hexValue? high) + (← hexValue? low)

/-- The bytes that a part of an address stands for, up to an escape of the byte zero. -/
def bytes : (part : List Char) → List UInt8
  | '%' :: high :: low :: cs =>
    match escaped? high low with
    | some 0 => []
    | some byte => UInt8.ofNat byte :: bytes cs
    | none => 37 :: bytes (high :: low :: cs)
  | c :: cs => (String.singleton c).toUTF8.toList ++ bytes cs
  | [] => []

/-- The text of bytes. Where they are no text in UTF-8, each byte outside ASCII is shown as a
replacement character. -/
def textOf (bytes : List UInt8) : String :=
  match String.fromUTF8? ⟨bytes.toArray⟩ with
  | some text => text
  | none => String.ofList (bytes.map fun b => if b < 128 then Char.ofNat b.toNat else '\uFFFD')

/-- The text that a part of an address stands for. -/
def decode (part : List Char) : String :=
  textOf (bytes part)

/-! ## Options -/

/-- The parts of a text between ampersands. -/
def splitOptions : List Char → List (List Char)
  | [] => [[]]
  | c :: cs =>
    match splitOptions cs with
    | [] => [[c]]
    | part :: parts => if c = '&' then [] :: part :: parts else (c :: part) :: parts

/-- An option with its value, which is empty where there is no equals sign. -/
def option (part : List Char) : String × String :=
  let (name, value) := part.span (· ≠ '=')
  (decode name, decode value.tail)

/-- The options of an address that have a name. -/
def options (query : List Char) : List (String × String) :=
  ((splitOptions query).map option).filter (!·.1.isEmpty)

/-- Whether the value of an option turns it on: a word for yes, or a number that is not zero in its
last eight bits. -/
def isOn (value : String) : Bool :=
  if value.toList.head?.any Char.isDigit then
    -- The number is read into a byte.
    ((Text.readDigits 0 (value.toList.takeWhile Char.isDigit)).getD 0) % 256 != 0
  else ["on", "yes", "true"].contains (value.map Char.toLower)

/-- Take up the options for the access and the cache, in order. The cache makes no difference, but
has to be a known one. -/
def access? (before : Access) : List (String × String) → Except Fault Access
  | [] => .ok before
  | ("mode", word) :: rest =>
    match Access.words.lookup word with
    | none => .error (.unknownAccess word)
    | some access =>
      if access.isWithin before then access? access rest else .error (.accessNotAllowed word)
  | ("cache", word) :: rest =>
    if word = "shared" ∨ word = "private" then access? before rest
    else .error (.unknownCache word)
  | _ :: rest => access? before rest

/-- The layer that options ask for; the last one decides. -/
def layer? (options : List (String × String)) : Except Fault Layer :=
  match (options.filter (·.1 == "vfs")).getLast? with
  | none => .ok .shared
  | some (_, word) =>
    match Layer.words.lookup word with
    | some layer => .ok layer
    | none => .error (.unknownLayer word)

/-- Whether an option is turned on; the first one of its name decides. -/
def isSet (options : List (String × String)) (name : String) : Bool :=
  (options.lookup name).any isOn

/-! ## Reading an address -/

/-- What follows the host of an address, which has to be this one. -/
def afterHost? : List Char → Except Fault (List Char)
  | '/' :: '/' :: cs =>
    let host := String.ofList (cs.takeWhile (· ≠ '/'))
    if host.isEmpty ∨ host = "localhost" then .ok (cs.dropWhile (· ≠ '/'))
    else .error (.foreignHost host)
  | cs => .ok cs

/-- Read what follows the scheme of an address. -/
def ofUri? (cs : List Char) : Except Fault Address := do
  let cs := (← afterHost? cs).takeWhile (· ≠ '#')
  let (path, query) := cs.span (· ≠ '?')
  let options := options query.tail
  let access ← access? .create options
  let layer ← layer? options
  return {
    path := decode path
    access := access
    layer :=
      if layer ≠ .memory ∧ isSet options "nolock" then .plain else layer.forAccess access
    isFrozen := isSet options "immutable" }

/-- Read the name of a database: an address if it has the scheme of one, else a path. -/
def ofName? (name : String) : Except Fault Address :=
  match name.toList.span (· ≠ '\x00') with
  | (before, _ :: _) => .error (.nulByte (String.ofList before).utf8ByteSize)
  | (cs, []) =>
    match cs with
    -- The scheme is told in lower case only.
    | 'f' :: 'i' :: 'l' :: 'e' :: ':' :: rest => ofUri? rest
    | _ => .ok { path := name }

end Address

end ReviewPipeline

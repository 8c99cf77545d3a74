import BlockMail.Project.Files
import BlockMail.Store.Error
import BlockMail.Text.Percent

/-!
# Databases

Which names stand for a database, and whether it can be opened. A name that
starts with `file:` is a locator: an optional host, a path and options, with
percent encoding. Any other name is a path. The empty path stands for a database
that is gone when it is closed.
-/

set_option autoImplicit false

namespace BlockMail.Project

inductive Access where
  | readOnly
  /-- Reading and writing one that is there. -/
  | existing
  /-- Reading and writing, making it first where there is none. -/
  | creating
  /-- Keeping it in memory. -/
  | inMemory
deriving DecidableEq

/-- A way of opening a database, as options ask for it. -/
structure Locator where
  path : String
  access : Access
  driver : String
deriving DecidableEq

/-- Why a locator is refused. -/
inductive LocatorFault where
  | foreignHost (host : String)
  | unknownCache (name : String)
  | unknownAccess (name : String)
  | deniedAccess (name : String)
  | unknownDriver (name : String)
deriving DecidableEq

def LocatorFault.message : LocatorFault → String
  | .foreignHost host => "invalid uri authority: " ++ host
  | .unknownCache name => "no such cache mode: " ++ name
  | .unknownAccess name => "no such access mode: " ++ name
  | .deniedAccess name => "access mode not allowed: " ++ name
  | .unknownDriver name => "no such vfs: " ++ name

namespace Access

def ofName? : String → Option Access
  | "ro" => some .readOnly
  | "rw" => some .existing
  | "rwc" => some .creating
  | "memory" => some .inMemory
  | _ => none

/-- How much an access asks for. -/
def demand : Access → Nat
  | .inMemory => 0
  | .readOnly => 1
  | .existing => 2
  | .creating => 3

/-- How much may be asked for after an access. -/
def grant : Access → Nat
  | .readOnly => 1
  | .existing => 2
  | .creating => 3
  | .inMemory => 4

end Access

namespace Locator

/-! ## Reading -/

/-- The name of the usual driver. -/
def usualDriver : String := "unix"

/-- The name of the driver that keeps databases in memory. -/
def memoryDriver : String := "memdb"

def drivers : List String :=
  [usualDriver, "unix-dotfile", "unix-excl", "unix-none", memoryDriver]

def memoryPath : String := ":memory:"

/-- The locator of a path without options. -/
def ofPath (path : String) : Locator := ⟨path, .creating, usualDriver⟩

/-- What a part of a locator stands for, up to a byte that is zero. -/
def decoded (part : List Char) : String :=
  (Text.ofUtf8? ((Text.percentDecoded part).takeWhile (· != 0))).getD
    (String.ofList part)

/-- An option: a name and a value, which is empty when there is no equals sign. -/
def readOption (text : List Char) : String × String :=
  match Text.splitAtFirst? '=' text with
  | some (name, value) => (decoded name, decoded value)
  | none => (decoded text, "")

/-- The options of a locator. Those without a name do not count. -/
def readOptions (text : List Char) : List (String × String) :=
  ((Text.splitAt '&' text).map readOption).filter fun option =>
    !option.1.isEmpty

/-- The locator with an option. An access that asks for more than the one before
it allows is denied. -/
def withOption (locator : Locator) (option : String × String) :
    Except LocatorFault Locator :=
  match option.1 with
  | "vfs" => .ok { locator with driver := option.2 }
  | "cache" =>
      if ["shared", "private"].contains option.2 then .ok locator
      else .error (.unknownCache option.2)
  | "mode" =>
      match Access.ofName? option.2 with
      | none => .error (.unknownAccess option.2)
      | some access =>
          if access.demand ≤ locator.access.grant then
            .ok { locator with access := access }
          else .error (.deniedAccess option.2)
  | _ => .ok locator

/-- The locator with options, if its driver is known. -/
def withOptions (locator : Locator) (options : List (String × String)) :
    Except LocatorFault Locator := do
  let found ← options.foldlM withOption locator
  if drivers.contains found.driver then return found
  else throw (.unknownDriver found.driver)

/-- What stands behind the host of a locator, which is no other than this one. -/
def behindHost : List Char → Except LocatorFault (List Char)
  | '/' :: '/' :: rest =>
      let host := String.ofList (rest.takeWhile (· != '/'))
      if host = "" ∨ host = "localhost" then .ok (rest.drop host.length)
      else .error (.foreignHost host)
  | text => .ok text

/-- The locator that is written behind `file:`. What follows a number sign does
not count. -/
def read (text : List Char) : Except LocatorFault Locator := do
  let written := (← behindHost text).takeWhile (· != '#')
  let path := ofPath (decoded (written.takeWhile (· != '?')))
  match Text.splitAtFirst? '?' written with
  | some (_, options) => path.withOptions (readOptions options)
  | none => return path

def ofName (name : String) : Except LocatorFault Locator :=
  match name.toList with
  | 'f' :: 'i' :: 'l' :: 'e' :: ':' :: rest => read rest
  | _ => .ok (ofPath name)

/-- Whether the database of a locator lies in no file. -/
def isFileless (locator : Locator) : Bool :=
  locator.access == .inMemory || locator.driver == memoryDriver ||
    locator.path.isEmpty || locator.path == memoryPath

end Locator

/-! ## Contents -/

/-- How a database file begins. -/
def databaseMark : List UInt8 := "SQLite format 3\x00".toUTF8.toList

/-- Whether two bytes of the head of a database are the size of its pages: a
power of two from 512 up, of which the second byte holds what lies above 16
bits. -/
def isPageSize (low high : UInt8) : Bool :=
  (high == 0 && [2, 4, 8, 16, 32, 64, 128].contains low) ||
    (high == 1 && low == 0)

def isDatabaseHead (bytes : List UInt8) : Bool :=
  databaseMark.isPrefixOf bytes &&
    isPageSize (bytes.getD 16 0) (bytes.getD 17 0) &&
    bytes.getD 19 0 ≤ 2 && (bytes.drop 21).take 3 == [64, 32, 32]

/-- Whether a file with such a content becomes a database when it is written to.
A single byte stands for none. -/
def isUnused (content : String) : Bool := content.utf8ByteSize ≤ 1

def isDatabase (content : String) : Bool :=
  isUnused content || isDatabaseHead content.toUTF8.toList

/-! ## Opening -/

/-- The most bytes of the path of a database and of the journal beside it. -/
def longestDatabasePath : Nat := 512

/-- The bytes by which the name of a journal is longer than that of its
database. -/
def journalSuffix : Nat := 8

def cannotOpen (name : String) : Store.Failure :=
  .unavailable ("unable to open database file: " ++ name)

def cannotKeepJournal : Store.Failure :=
  .unavailable "unable to open database file"

/-- The failure of a file with other content. -/
def notADatabase : Store.Failure := .unavailable "file is not a database"

/-- The failure to write to what may only be read. -/
def notWritable : Store.Failure :=
  .unavailable "attempt to write a readonly database"

/-- The failure of a name with the character that ends a path. -/
def endedName (position : Nat) : Store.Failure :=
  .unavailable
    ("nul byte found in provided data at position: " ++ toString position)

section

variable {m : Type → Type} [Monad m] [Files m]

/-- Checks that the content of a file is fit for a database. -/
def checkContent (access : Access) (content : String) :
    Except Store.Failure Unit :=
  if !isDatabase content then .error notADatabase
  else if access = .readOnly ∧ isUnused content then .error notWritable
  else .ok ()

/-- Checks that a database lies, or can be made, at a place. -/
def openPlace (access : Access) (name : String) (place : List String) :
    m (Except Store.Failure Unit) := do
  let pathOf (parts : List String) : Path := ⟨"/" ++ (Path.ofParts parts).text⟩
  let path := pathOf place
  let last := (place.getLastD "").utf8ByteSize
  let fits :=
    last ≤ longestName &&
      path.text.utf8ByteSize + journalSuffix ≤ longestDatabasePath
  if !fits ∨ (← Files.kind? (pathOf place.dropLast)) ≠ some .directory then
    return .error (cannotOpen name)
  let content : Except Store.Failure Unit ← do
    match ← Files.kind? path with
    | some .directory => pure (.error (cannotOpen name))
    | none =>
        pure (if access = .creating then .ok () else .error (cannotOpen name))
    | some .file =>
        match ← Files.read path with
        | .error _ => pure (.ok ())
        | .ok content => pure (checkContent access content)
  match content with
  | .error failure => return .error failure
  | .ok () =>
      if longestName < last + journalSuffix then
        return .error cannotKeepJournal
      else return .ok ()

/-- Checks that the database of a locator can be opened or made. -/
def openLocator (resolve : Path → Path) (name : String) (locator : Locator) :
    m (Except Store.Failure Unit) :=
  if locator.isFileless then
    return if locator.access = .readOnly then .error notWritable else .ok ()
  else openPlace locator.access name (resolve ⟨locator.path⟩).plainParts

/-- Makes the directory that a database is to lie in. -/
def makePlace (resolve : Path → Path) (database : Path) :
    m (Except Store.Failure Unit) := do
  match database.parent? with
  | none => return .ok ()
  | some parent =>
      if parent.text.isEmpty then return .ok ()
      match ← Files.makeDirectories (resolve parent) with
      | .ok () => return .ok ()
      | .error fault =>
          return .error (.unavailable (parent.text ++ ": " ++ fault.message))

/-- Checks that a database can be opened or made. `resolve` says where a path
is; complaints show the name itself. -/
def openDatabase (resolve : Path → Path) (database : Path) :
    m (Except Store.Failure Unit) := do
  match ← makePlace resolve database with
  | .error failure => return .error failure
  | .ok () =>
      let before := database.text.toList.takeWhile (· != '\x00')
      if before.length < database.text.length then
        return .error (endedName (String.ofList before).utf8ByteSize)
      else
        match Locator.ofName database.text with
        | .error fault => return .error (.unavailable fault.message)
        | .ok locator => openLocator resolve database.text locator

end

end BlockMail.Project

/-
The boot logo from removable storage.

A request to open the boot logo names it by a binary path in user memory.  The request is first
tried on removable storage: three words of it and the path are replaced, and the call is made.  If
the logo is not there, the words and the path are put back and the request goes on as it was.
-/
import Interception.Engine.Outcome
import Interception.Window.Snapshot

namespace Interception

namespace Logo

/-- The archive on removable storage. -/
def storageArchive : UInt32 := 9

/-- The type of an empty path. -/
def emptyPath : UInt32 := 1

/-- The type of a path in plain text. -/
def textPath : UInt32 := 3

/-- The size of the binary path. -/
abbrev pathLength : Nat := 20

/-- Where the file name stands in the binary path. -/
def nameOffset : Nat := 12

/-- The file name of the boot logo, its end included. -/
def fileName : List UInt8 := Text.utf8 "logo\x00"

/-- The path of the boot logo on removable storage, its end included. -/
def storagePath : List UInt8 := Text.utf8 "/luma/logo.bin\x00"

/-- How many words a request to open a file has. -/
abbrev requestWords : Nat := 13

/-- The word that points to the path. -/
def pointerWord : Nat := 12

/-- Whether a binary path is that of the boot logo. -/
def isLogoPath (path : Vector UInt8 pathLength) : Bool :=
  (path.toList.drop nameOffset).take fileName.length == fileName

/-- The words of a request for the boot logo on removable storage. -/
def redirect (w : Window) : Window :=
  ((w.set 2 storageArchive).set 3 emptyPath).set 5 textPath

end Logo

namespace Engine

variable {σ : Type}

/-- Reads the binary path behind a pointer. -/
def readPath (env : Environment σ) (pointer : UInt32) :
    Engine σ (Except Fault (Vector UInt8 Logo.pathLength)) :=
  match Span.checkPointer pointer (UInt32.ofNat Logo.pathLength) with
  | .error fault => return .error fault
  | .ok range => range.read (readMemory env) Logo.pathLength

/-- Puts the words of the request and then its path back. -/
def undoRedirect (env : Environment σ) (pointer : UInt32) (path : Vector UInt8 Logo.pathLength)
    (saved : Snapshot Logo.requestWords) : Engine σ Unit := do
  modifyWindow fun w => w.restore saved
  match ← writeMemory env pointer path.toList with
  | .ok _ => return
  | .error fault => note (.pathNotRestored pointer fault)

/-- Tries a request for the boot logo on removable storage. -/
def tryStorage (env : Environment σ) (handle : Handle) (pointer : UInt32)
    (path : Vector UInt8 Logo.pathLength) : Engine σ Outcome := do
  -- A request to open a file has thirteen words, and the snapshot covers them all.
  let saved := (← window).snapshot Logo.requestWords
  modifyWindow Logo.redirect
  match ← writeMemory env pointer Logo.storagePath with
  | .error fault =>
    note (.pathNotReplaced pointer fault)
    modifyWindow fun w => w.restore saved
    return .forward
  | .ok _ =>
    let result ← send env (.caller handle)
    if result.isSuccess && (← window).word 1 == 0 then
      note .logoServed
      return .answered result
    else
      undoRedirect env pointer path saved
      return .forward

/-- Opens the boot logo on removable storage if it is there.  Other files, and paths that cannot be
read, are left to the real call. -/
def openLogo (env : Environment σ) (handle : Handle) : Engine σ Outcome := do
  let pointer := (← window).word Logo.pointerWord
  match ← readPath env pointer with
  | .error fault =>
    note (.pathUnreadable pointer fault)
    return .forward
  | .ok path =>
    if Logo.isLogoPath path then tryStorage env handle pointer path else return .forward

end Engine

end Interception

/-
Module: SourceRecovery.Storage
Layer: Files
Purpose: Where texts are written. A storage is what a program does with a tree of directories: every operation changes
  the world, and may fail for whatever reason, which it gives in words.
Imports: none
Trusted boundary: file operations; when they fail is up to the storage
Main exports: Storage, Storage.writeOutput, Storage.beside
Open obligations: none
-/

namespace SourceRecovery

/-- The operations on a tree of directories. -/
structure Storage (σ : Type) where
  /-- A directory is removed with all that is in it, if it is there, and made anew. -/
  recreate : (path : String) → StateM σ (Except String Unit)
  /-- The directory that a path lies in is made, with those above it. -/
  makeFolder : (path : String) → StateM σ (Except String Unit)
  /-- A text is written at a path. -/
  write : (path text : String) → StateM σ (Except String Unit)

namespace Storage

variable {σ τ : Type}

/-- A text written at a path, whose directory is made first. -/
def writeOutput (storage : Storage σ) (path text : String) : StateM σ (Except String Unit) := do
  match ← storage.makeFolder path with
  | .ok _ => storage.write path text
  | .error message => return .error message

/-- What is done to the first of two worlds. -/
def onFirst {α : Type} (action : StateM σ α) : StateM (σ × τ) α :=
  fun (first, second) =>
    let (result, first) := action.run first
    (result, first, second)

/-- What is done to the second of two worlds. -/
def onSecond {α : Type} (action : StateM τ α) : StateM (σ × τ) α :=
  fun (first, second) =>
    let (result, second) := action.run second
    (result, first, second)

/-- The storage beside another world. -/
def beside (storage : Storage τ) : Storage (σ × τ) where
  recreate path := onSecond (storage.recreate path)
  makeFolder path := onSecond (storage.makeFolder path)
  write path text := onSecond (storage.write path text)

end Storage

end SourceRecovery

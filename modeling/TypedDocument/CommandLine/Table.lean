import TypedDocument.CommandLine.Run

/-!
# Files in memory

A table of files stands for a directory without subdirectories. The dot is the directory itself, which can be neither
read nor written as a file, and nothing can be written below a directory that does not exist.
-/

namespace TypedDocument.CommandLine

/-- File contents by name. -/
abbrev FileTable := Entries String String

namespace FileTable

def isADirectory : String := "Is a directory (os error 21)"

def noSuchDirectory : String := "No such file or directory (os error 2)"

/-- The content of a file. -/
def read (path : String) (files : FileTable) : Except LoadError String :=
  match Entries.get? path files with
  | some content => .ok content
  | none => if path = "." then .error (.unreadable path isADirectory) else .error (.fileNotFound path)

/-- The table with a file added or replaced. -/
def write (path content : String) (files : FileTable) : Except String FileTable :=
  if path = "." then .error isADirectory
  else if path.toList.contains '/' then .error noSuchDirectory
  else .ok (Entries.put path content files)

/-- File access that works on a table. -/
def access : FileAccess (StateM FileTable) where
  read path := do return read path (← get)
  write path content := do
    match write path content (← get) with
    | .ok files => do
      set files
      return .ok ()
    | .error reason => return .error reason

end FileTable

/-- Runs a command on a table of files. -/
def Command.runOn (c : Command) (files : FileTable) : Outcome × FileTable := (c.run FileTable.access).run files

end TypedDocument.CommandLine

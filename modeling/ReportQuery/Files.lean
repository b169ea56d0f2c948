import ReportQuery.Environment

/-!
# Text files

The files that a run can see, by their absolute paths, and the directory from
which relative paths start. A path is followed part by part: every part but the
last has to lead to a directory, and a slash at its end asks for one too. A
directory is there when it is known or when something is inside it.
-/

namespace ReportQuery

/-- Why a path does not lead to what is wanted there. -/
inductive FileFault where
  | missing
  /-- A file stands where a directory has to be. -/
  | notDirectory
  /-- A directory stands where a file has to be. -/
  | isDirectory
  | nameTooLong
  /-- There is something where something new is to be made. -/
  | taken
deriving DecidableEq, Repr

/-- The message of the fault. -/
def FileFault.message : FileFault → String
  | missing => "No such file or directory (os error 2)"
  | notDirectory => "Not a directory (os error 20)"
  | isDirectory => "Is a directory (os error 21)"
  | nameTooLong => "File name too long (os error 36)"
  | taken => "File exists (os error 17)"

/-- What there is: files and directories, by their absolute paths. -/
structure Layout where
  files : List String
  directories : List String
deriving DecidableEq, Repr

namespace Layout

/-- The greatest number of bytes in the name of a file. -/
def longestName : Nat := 255

/-- Whether there is a file at a path, whose parts are given with the innermost
first. -/
def isFile (layout : Layout) (parts : List String) : Bool :=
  layout.files.contains (Path.ofParts parts)

/-- Whether there is a directory at a path, whose parts are given with the
innermost first. -/
def isDirectory (layout : Layout) (parts : List String) : Bool :=
  let path := Path.ofParts parts
  parts.isEmpty || layout.directories.contains path ||
    (layout.files ++ layout.directories).any fun known =>
      Text.startsWith (path ++ "/").toList known.toList

/-- Where a path leads from a place; the parts of both places are given with
the innermost first. -/
def follow (layout : Layout) (place : List String) :
    List String → Except FileFault (List String)
  | [] => .ok place
  | part :: rest =>
    if layout.isFile place then .error .notDirectory
    else if part = "" ∨ part = "." then follow layout place rest
    else if part = ".." then follow layout place.tail rest
    else if longestName < part.utf8ByteSize then .error .nameTooLong
    else if layout.isFile (part :: place) ||
      layout.isDirectory (part :: place) then
      follow layout (part :: place) rest
    else .error .missing

/-- What is in the way of a directory, which is to be made with all directories
around it. -/
def obstacle? (layout : Layout) (place : List String) :
    List String → Option FileFault
  | [] => if layout.isFile place then some .taken else none
  | part :: rest =>
    if layout.isFile place then some .notDirectory
    else if part = "." then obstacle? layout place rest
    else if part = ".." then obstacle? layout place.tail rest
    else if longestName < part.utf8ByteSize then some .nameTooLong
    else obstacle? layout (part :: place) rest

end Layout

/-- The text files that a run can see. -/
structure Files where
  directory : String
  entries : List (String × String) := []
  /-- Directories that are there although they may hold no file. -/
  directories : List String := []
deriving DecidableEq, Repr

namespace Files

/-- What there is. -/
def layout (files : Files) : Layout :=
  { files := files.entries.map (·.1), directories := files.directory ::
    files.directories }

/-- The place from which a path starts, its parts with the innermost first. -/
def start (files : Files) (path : String) : List String :=
  if Path.isAbsolute path then [] else (Path.parts files.directory).reverse

/-- The absolute path that a path means, whether or not something is there. -/
def locate (files : Files) (path : String) : String :=
  Path.resolve files.directory path

/-- The absolute path of what a path leads to. -/
def follow (files : Files) (path : String) : Except FileFault String :=
  if path.isEmpty then .error .missing
  else (files.layout.follow (files.start path) (path.splitOn "/")).map
    Path.ofParts

/-- The text of the file that a path leads to. -/
def read (files : Files) (path : String) : Except FileFault String :=
  (files.follow path).bind fun place =>
    match files.entries.lookup place with
    | some text => .ok text
    | none => .error .isDirectory

/-- The files with a text in the place of the one at an absolute path. -/
def put (files : Files) (place content : String) : Files :=
  { files with
    entries :=
      if (files.entries.lookup place).isSome then
        files.entries.map fun entry =>
          (entry.1, if entry.1 == place then content else entry.2)
      else files.entries ++ [(place, content)] }

/-- The files after a text was written to the file that a path leads to. -/
def write (files : Files) (path content : String) : Files :=
  match files.follow path with
  | .ok place => files.put place content
  | .error _ => files.put (files.locate path) content

/-- What is in the way of a directory, which is to be made with all directories
around it. -/
def obstacle? (files : Files) (path : String) : Option FileFault :=
  files.layout.obstacle? (files.start path)
    ((path.splitOn "/").filter (· != ""))

theorem layout_put {files : Files} {place content : String}
    (h : (files.entries.lookup place).isSome) :
    (files.put place content).layout = files.layout := by
  unfold layout put
  rw [if_pos h]
  simp [Function.comp_def]

theorem follow_put {files : Files} {place content : String}
    (h : (files.entries.lookup place).isSome) (path : String) :
    (files.put place content).follow path = files.follow path := by
  unfold follow
  rw [layout_put h]
  rfl

theorem lookup_put_same {files : Files} {place content : String}
    (h : (files.entries.lookup place).isSome) :
    (files.put place content).entries.lookup place = some content := by
  unfold put
  rw [if_pos h]
  revert h
  show (List.lookup place files.entries).isSome →
    List.lookup place (files.entries.map _) = _
  induction files.entries with
  | nil => simp
  | cons entry rest ih =>
    obtain ⟨found, text⟩ := entry
    by_cases hfound : found = place
    · simp [hfound]
    · have hother : (place == found) = false := by simpa using Ne.symm hfound
      simpa [List.lookup_cons, hother] using ih

/-- What is written to a file is read from it. -/
theorem read_write {files : Files} {path text : String}
    (h : files.read path = .ok text) (content : String) :
    (files.write path content).read path = .ok content := by
  unfold read at h
  match hplace : files.follow path with
  | .error _ => simp [hplace, Except.bind] at h
  | .ok place =>
    have hfile : (files.entries.lookup place).isSome := by
      cases hlookup : files.entries.lookup place with
      | some _ => rfl
      | none => simp [hplace, Except.bind, hlookup] at h
    simp [write, read, hplace, follow_put hfile, lookup_put_same hfile,
      Except.bind]

end Files

end ReportQuery

import Std.Data.HashMap
/-!
# The directory tree a run sees

A run writes into a fresh working directory, after the directories a request asks for have been
made in it. `FileTree` is that part of the file system, with the rules of the system calls that
touch it:

* a path is walked piece by piece from the working directory: an empty piece and `.` stay
  where they are, `..` goes up (above the working directory too), and a name goes down into a
  directory that must exist;
* a name longer than 255 bytes is refused as too long wherever it stands, and so is a whole
  path of 4096 bytes or more (the limit counts the terminating zero byte);
* `mkdir` makes one directory in an existing one; `createAll` makes a directory with every
  missing one before it, as recursive directory creation does: it tries the path, on "not
  found" makes the path's parent first and tries again, and it accepts any failure after which
  the path is a directory all the same;
* `createIn` opens a fresh file in a directory, by the directory's absolute path;
* `renameTarget` checks the target of a rename of a fresh file and says where the file lands.

The working directory and the directories above it exist; any other directory exists once it
is made. A made directory is found by the directory it is in and its name through a hash map,
so a walk takes one lookup a piece however many directories there are. Files never stand in
the way of a walk: the only file a run writes is its output.
-/

set_option autoImplicit false

namespace CounterExport.Command

/-- Why a file system call was refused. -/
inductive FsError
  | notFound
  | alreadyExists
  | busy
  | notDirectory
  | isDirectory
  | nameTooLong
  /-- A path holding a zero byte, refused before any call is made. -/
  | zeroByte
  deriving DecidableEq, Repr

/-- The text of an error, with the system's error number. -/
def FsError.message : FsError → String
  | .notFound => "No such file or directory (os error 2)"
  | .alreadyExists => "File exists (os error 17)"
  | .busy => "Device or resource busy (os error 16)"
  | .notDirectory => "Not a directory (os error 20)"
  | .isDirectory => "Is a directory (os error 21)"
  | .nameTooLong => "File name too long (os error 36)"
  | .zeroByte => "file name contained an unexpected NUL byte"

/-- The longest name of a directory entry, in bytes. -/
def maxNameBytes : Nat := 255

/-- Every path is shorter than this many bytes. -/
def pathLimitBytes : Nat := 4096

/-- A directory: one above the working directory (`above k` lies `k` steps up, `above 0` is the
working directory itself), or the `i`-th directory the run made (`made i`). -/
inductive Node
  | above (k : Nat)
  | made (i : Nat)
  deriving DecidableEq, Hashable, Repr

/-- The working directory. -/
def Node.home : Node := .above 0

/-- The working directory and the directories made in it or around it. Each made directory is
recorded with the directory it is in and its name, and found again through `index`. -/
structure FileTree where
  /-- The length in bytes of the working directory's absolute path. -/
  homeBytes : Nat
  /-- The directories made, in order: the directory each is in, and its name. -/
  made : Array (Node × String)
  /-- The number of each made directory, by the directory it is in and its name. -/
  index : Std.HashMap (Node × String) Nat

/-- A working directory with nothing in it. -/
def FileTree.fresh (homeBytes : Nat) : FileTree := ⟨homeBytes, #[], {}⟩

/-- The entry `name` of a directory, if it is a directory the run made. -/
def FileTree.child? (t : FileTree) (n : Node) (name : String) : Option Node :=
  (t.index.get? (n, name)).map .made

/-- The directory a `..` leads to. -/
def FileTree.parent (t : FileTree) : Node → Node
  | .above k => .above (k + 1)
  | .made i => ((t.made[i]?).map (·.1)).getD .home

/-- One piece of a walk. -/
def FileTree.step (t : FileTree) (n : Node) (piece : String) : Except FsError Node :=
  if piece = "" ∨ piece = "." then .ok n
  else if piece = ".." then .ok (t.parent n)
  else if piece.utf8ByteSize > maxNameBytes then .error .nameTooLong
  else
    match t.child? n piece with
    | some m => .ok m
    | none => .error .notFound

/-- Walks pieces in order from a directory; the first piece that fails ends the walk. -/
def FileTree.walk (t : FileTree) (n : Node) : List String → Except FsError Node
  | [] => .ok n
  | piece :: rest =>
    match t.step n piece with
    | .ok m => t.walk m rest
    | .error e => .error e

/-- Makes the directory `name` in the directory `n`. -/
def FileTree.add (t : FileTree) (n : Node) (name : String) : FileTree :=
  { t with made := t.made.push (n, name), index := t.index.insert (n, name) t.made.size }

/-- The names leading from the working directory down to a directory, `none` for one that is
not in it or below it. Each made directory is made after the one it is in, so the number of
directories made bounds the steps up. -/
def FileTree.namesTo (t : FileTree) : Nat → Node → Option (List String)
  | _, .above 0 => some []
  | _, .above _ => none
  | 0, .made _ => none
  | fuel + 1, .made i =>
    match t.made[i]? with
    | some (n, name) => (t.namesTo fuel n).map (· ++ [name])
    | none => none

/-- Whether a relative path, joined to the working directory, stays under the path limit. -/
def FileTree.fits (t : FileTree) (path : String) : Bool :=
  t.homeBytes + 1 + path.utf8ByteSize < pathLimitBytes

/-- Whether a relative path leads to a directory. -/
def FileTree.isDir (t : FileTree) (path : String) : Bool :=
  t.fits path && (t.walk .home (path.splitOn "/")).toBool

/-- A path cut before its last piece, slashes at its end set aside: the pieces to walk, the
last piece, and whether a slash ended the path (which asks for a directory). -/
structure Cut where
  init : List String
  last : String
  slash : Bool

/-- Cuts a relative path before its last piece. -/
def Cut.ofPath (path : String) : Cut :=
  let cs := path.toList
  let trimmed := (cs.reverse.dropWhile (· = '/')).reverse
  let pieces := (String.ofList trimmed).splitOn "/"
  ⟨pieces.dropLast, pieces.getLast?.getD "", trimmed.length < cs.length⟩

/-- Makes the directory at a relative path, in a directory that exists. A last piece `.` or
`..` (or none) names a directory that is there already. -/
def FileTree.mkdir (t : FileTree) (path : String) : Except FsError FileTree :=
  if !t.fits path then .error .nameTooLong
  else
    let c := Cut.ofPath path
    match t.walk .home c.init with
    | .error e => .error e
    | .ok dir =>
      if c.last = "" ∨ c.last = "." ∨ c.last = ".." then .error .alreadyExists
      else if c.last.utf8ByteSize > maxNameBytes then .error .nameTooLong
      else if (t.child? dir c.last).isSome then .error .alreadyExists
      else .ok (t.add dir c.last)

/-- Whether the piece at position `i` of a path split at `/` is one of its components: it is
not empty, and it is not `.` unless it opens a relative path. -/
def isComponent (i : Nat) (piece : String) : Bool :=
  piece != "" && (piece != "." || i == 0)

/-- The directory part of a path: the text up to the component before its last one, so that
separators and `.` pieces between them are dropped (`a//b` and `a/./b` give `a`, `x/` gives
``). It is `/` when only the root stands before the last component, and `` when nothing does.
A `..` is a component like any other: the parent of `a/..` is `a`. -/
def parentOf (p : String) : String :=
  let pieces := p.splitOn "/"
  let comps := pieces.zipIdx.filter fun (s, i) => isComponent i s
  match comps.reverse with
  | [] => ""
  | _ :: before =>
    match before with
    | (_, k) :: _ => "/".intercalate (pieces.take (k + 1))
    | [] => if p.startsWith "/" then "/" else ""

/-- Recursive creation with `fuel` levels of parents left: try the path; when a directory on
the way is missing, make the parent and try again; a failure after which the path is a
directory counts as success. -/
def FileTree.createLevels : Nat → FileTree → String → Except FsError FileTree
  | 0, t, _ => .ok t
  | fuel + 1, t, path =>
    if path.isEmpty then .ok t
    else
      match t.mkdir path with
      | .ok t1 => .ok t1
      | .error .notFound =>
        match FileTree.createLevels fuel t (parentOf path) with
        | .error e => .error e
        | .ok t1 =>
          match t1.mkdir path with
          | .ok t2 => .ok t2
          | .error e => if t1.isDir path then .ok t1 else .error e
      | .error e => if t.isDir path then .ok t else .error e

/-- Makes a directory and every missing directory before it. A path with a zero byte is
refused; an absolute path leads out of the tree and changes nothing in it. Each parent is
shorter than its path, so the path's length bounds the levels. -/
def FileTree.createAll (t : FileTree) (path : String) : Except FsError FileTree :=
  if path.toList.contains '\x00' then .error .zeroByte
  else if path.startsWith "/" then .ok t
  else FileTree.createLevels (path.length + 1) t path

/-- Makes every directory of a list, in order; the first failure ends it. -/
def FileTree.createEach (t : FileTree) : List String → Except FsError FileTree
  | [] => .ok t
  | d :: rest =>
    match t.createAll d with
    | .ok t1 => t1.createEach rest
    | .error e => .error e

/-- Opens a fresh file of a name `nameBytes` long in the directory at a relative path `dir`,
which is joined to the working directory's absolute path first. -/
def FileTree.createIn (t : FileTree) (dir : String) (nameBytes : Nat) : Except FsError Unit :=
  if t.homeBytes + 1 + dir.utf8ByteSize + 1 + nameBytes ≥ pathLimitBytes then .error .nameTooLong
  else (t.walk .home (dir.splitOn "/")).map fun _ => ()

/-- Checks a relative path as the target of renaming a fresh file onto it, in the order the
system does: the whole path's length, the directories before its last piece, a last piece `.`
or `..` (busy), the last piece's length, a slash at the end (a file is not a directory), and an
existing directory there (a file does not replace one). Gives the file's path when it lands in
the working directory or below, `none` when it lands elsewhere. -/
def FileTree.renameTarget (t : FileTree) (path : String) : Except FsError (Option String) :=
  if path.utf8ByteSize ≥ pathLimitBytes then .error .nameTooLong
  else
    let c := Cut.ofPath path
    match t.walk .home c.init with
    | .error e => .error e
    | .ok dir =>
      if c.last = "" then .error .notFound
      else if c.last = "." ∨ c.last = ".." then .error .busy
      else if c.last.utf8ByteSize > maxNameBytes then .error .nameTooLong
      else if c.slash then .error .notDirectory
      else if (t.child? dir c.last).isSome then .error .isDirectory
      else .ok ((t.namesTo (t.made.size + 1) dir).map fun names => "/".intercalate (names ++ [c.last]))

theorem walk_nil (t : FileTree) (n : Node) : t.walk n [] = .ok n := rfl

theorem walk_cons (t : FileTree) (n : Node) (piece : String) (rest : List String) :
    t.walk n (piece :: rest) = (t.step n piece).bind fun m => t.walk m rest := by
  simp only [FileTree.walk]
  cases t.step n piece <;> rfl

/-- A directory just made is found again by its name. -/
theorem child?_add (t : FileTree) (n : Node) (name : String) :
    (t.add n name).child? n name = some (.made t.made.size) := by
  simp only [FileTree.add, FileTree.child?, Std.HashMap.get?_eq_getElem?,
    Std.HashMap.getElem?_insert_self, Option.map_some]

end CounterExport.Command

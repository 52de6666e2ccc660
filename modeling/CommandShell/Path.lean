/-!
# Paths

Paths by their components, and the files to which they lead.
-/

namespace CommandShell

namespace Path

def segments (path : String) : List (List Char) :=
  path.toList.splitOn '/'

/-- Appends a path to a directory; an absolute path stands for itself. -/
def join (directory path : String) : String :=
  if path.startsWith "/" then path
  else if directory.isEmpty || directory.endsWith "/" then directory ++ path
  else directory ++ "/" ++ path

def isIdle (segment : List Char) : Bool :=
  segment = [] || segment = ['.']

/-- The segments before the last component of a path, and that component, where
segments are given in reverse. -/
def lastComponent : List (List Char) → Option (List (List Char) × List Char)
  | [] => none
  | segment :: earlier =>
    if isIdle segment then lastComponent earlier else some (earlier, segment)

def fileName? (path : String) : Option String :=
  match lastComponent (segments path).reverse with
  | none => none
  | some (_, name) => if name = ['.', '.'] then none else some (String.ofList name)

def splitExtension (name : List Char) : List Char × Option (List Char) :=
  let reversed := name.reverse
  let extension := reversed.takeWhile (· ≠ '.')
  match reversed.dropWhile (· ≠ '.') with
  | [] => (name, none)
  | [_] => (name, none)
  | _ :: stem => (stem.reverse, some extension.reverse)

def extension? (path : String) : Option String :=
  (fileName? path).bind fun name =>
    (splitExtension name.toList).2.map String.ofList

def stem? (path : String) : Option String :=
  (fileName? path).map fun name => String.ofList (splitExtension name.toList).1

def trimIdle : List (List Char) → List (List Char)
  | [] => []
  | [first] => [first]
  | segment :: earlier => if isIdle segment then trimIdle earlier else segment :: earlier

def withFileName (path name : String) : String :=
  match lastComponent (segments path).reverse with
  | none => join path name
  | some (earlier, last) =>
    if last = ['.', '.'] then join path name
    else if earlier = [] then name
    else
      let parent := (trimIdle earlier).reverse.map String.ofList
      String.intercalate "/" parent ++ "/" ++ name

/-! ## Components of paths -/

inductive Component where
  | root
  | here
  | up
  | name (characters : List Char)
  deriving DecidableEq, Repr

def Component.opening (segment : List Char) : Component :=
  if segment = [] then .root
  else if segment = ['.'] then .here
  else if segment = ['.', '.'] then .up
  else .name segment

def Component.ofSegment? (segment : List Char) : Option Component :=
  if isIdle segment then none else some (opening segment)

def Component.ofSegments : List (List Char) → List Component
  | [] => []
  | first :: rest => opening first :: rest.filterMap ofSegment?

def components (path : String) : List Component :=
  if path = "" then [] else Component.ofSegments (segments path)

def parent? (path : String) : Option (List Component) :=
  match (components path).getLast? with
  | none => none
  | some .root => none
  | some _ => some (components path).dropLast

end Path

/-! ## File trees -/

inductive Node where
  | absent
  | directory
  | unreadable
  | file (bytes : List UInt8)
  deriving DecidableEq, Repr

def Node.isFile : Node → Bool
  | unreadable => true
  | file _ => true
  | _ => false

abbrev Files := String → Node

/-- The nodes below a directory, each under its components. -/
structure FileTree where
  root : String
  nodes : List (List (List Char) × Node)

namespace FileTree

def ofPaths (root : String) (nodes : List (String × Node)) : FileTree :=
  ⟨root, nodes.map fun (path, node) =>
    ((Path.segments path).filter (!Path.isIdle ·), node)⟩

/-- Whether components lead to a directory: one that is listed, or one above a
node that is listed. -/
def isDirectory (tree : FileTree) (components : List (List Char)) : Bool :=
  components.isEmpty || tree.nodes.any fun (path, node) =>
    (path = components && node = .directory) ||
      (components.isPrefixOf path && components.length < path.length)

/-- Follows segments from a directory, which is given by its components in
reverse; none when the way is barred or leads out of the tree. -/
def follow (tree : FileTree) : List (List Char) → List (List Char) →
    Option (List (List Char))
  | here, [] => some here.reverse
  | here, segment :: rest =>
    if !tree.isDirectory here.reverse then none
    else if Path.isIdle segment then tree.follow here rest
    else if segment = ['.', '.'] then
      match here with
      | [] => none
      | _ :: above => tree.follow above rest
    else tree.follow (segment :: here) rest

def find (tree : FileTree) : Files := fun path =>
  let root := Path.segments tree.root
  let segments := Path.segments path
  if root.isPrefixOf segments then
    match tree.follow [] (segments.drop root.length) with
    | none => .absent
    | some components =>
      if tree.isDirectory components then .directory
      else ((tree.nodes.find? fun entry => entry.1 = components).map Prod.snd).getD .absent
  else .absent

end FileTree

end CommandShell

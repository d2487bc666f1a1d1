import AccessList.Command.Host
import AccessList.Table

/-! A host in memory. Its files have their paths from the root, a directory is there if a file lies in
it, and what a command prints and says is kept. -/
namespace AccessList.Command

structure Memory where
  files : Table ByteArray := {}
  printed : String := ""
  told : Array Remark := #[]

namespace Memory

/-- The names from the root to the working directory. Here and below the last name comes first. Its own name
is none that a path can have. -/
def home : List String := ["\x00", "tmp"]

def directories : List String := [
  "/bin", "/boot", "/dev", "/etc", "/home", "/lib", "/media", "/mnt", "/opt", "/proc", "/root", "/run",
  "/sbin", "/srv", "/sys", "/tmp", "/usr", "/var", "/dev/shm", "/usr/bin", "/usr/lib", "/usr/local",
  "/usr/sbin", "/usr/share", "/var/cache", "/var/lib", "/var/log", "/var/tmp"]

def pathOf (trail : List String) : String := "/" ++ String.intercalate "/" trail.reverse

def trailOf (path : String) : List String := (Files.parts path).reverse

def ofFiles (given : Table ByteArray) : Memory where
  files := given.entries.foldl
    (fun t (name, content) => t.insert (pathOf (trailOf name ++ home)) content)
    (Table.ofList [("/dev/null", ByteArray.empty)])

def homeFiles (d : Memory) : List (String × ByteArray) :=
  d.files.entries.filterMap fun (path, content) =>
    let names := Files.parts path
    if home.reverse.isPrefixOf names then
      some (String.intercalate "/" (names.drop home.length), content)
    else none

def full : List String := ["full", "dev"]

def isFile (d : Memory) (trail : List String) : Bool := d.files.contains (pathOf trail)

def isDirectory (d : Memory) (trail : List String) : Bool :=
  trail.isSuffixOf home || directories.contains (pathOf trail) || d.files.entries.any fun (path, _) =>
    trail.isSuffixOf (trailOf path) && trail.length < (trailOf path).length

/-- Where a path leads. Every name but the last has to be that of a directory. -/
def walk (d : Memory) (trail : List String) : List String → Except Files.Fault (List String)
  | [] => .ok trail
  | name :: names =>
    if !d.isDirectory trail then .error (if d.isFile trail then .notDirectory else .missing)
    else if Files.isLongName name then .error .nameTooLong
    else d.walk (if name = ".." then trail.drop 1 else name :: trail) names

def locate (d : Memory) (path : String) : Except Files.Fault (List String) :=
  if Files.isLongPath path then .error .nameTooLong
  else d.walk (if Files.isAbsolute path then [] else home) (Files.parts path)

def read (d : Memory) (path : String) : Except Files.Fault ByteArray := do
  let trail ← d.locate path
  match d.files.get? (pathOf trail) with
  | some content => return content
  | none => throw (if d.isDirectory trail then .isDirectory else .missing)

def write (d : Memory) (path text : String) : Except Files.Fault Memory := do
  let trail ← d.locate path
  if d.isDirectory trail then throw .isDirectory
  else if trail = full && !text.isEmpty then throw .noSpace
  else return { d with files := d.files.insert (pathOf trail) text.toUTF8 }

instance : Host (StateM Memory) where
  read path := return (← get).read path
  write path text := do
    match (← get).write path text with
    | .ok d =>
      set d
      return .ok ()
    | .error fault => return .error fault
  print text := modify fun d => { d with printed := d.printed ++ text }
  tell remark := modify fun d => { d with told := d.told.push remark }

end Memory
end AccessList.Command

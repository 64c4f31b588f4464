/-!
A file system the tool reads its configuration file from, and the ways that read fails.

A path is resolved one name at a time from the root, or from the working directory when
it does not start with `/`. Empty names (doubled or trailing slashes) are skipped, `.`
stays and `..` goes up, stopping at the root. Every name but the last must be a
directory; a trailing slash asks for a directory too. A path of 4096 bytes or more, or a
name longer than 255 bytes, is refused, the name when resolution reaches it. A directory
opens but cannot be read, and a file must hold UTF-8 text.
-/
namespace XrLayer.Cli

inductive ReadFailure where
  | notFound
  | permissionDenied
  | notDirectory
  | isDirectory
  | nameTooLong
  | notText
deriving DecidableEq, Repr

namespace ReadFailure

def ofCode? (code : Nat) : Option ReadFailure :=
  match code with
  | 2 => some .notFound
  | 13 => some .permissionDenied
  | 20 => some .notDirectory
  | 21 => some .isDirectory
  | 36 => some .nameTooLong
  | _ => none

/-- How the failure is described: the system's message with its error number, or the
complaint about the text. -/
def describe : ReadFailure → String
  | .notFound => "No such file or directory (os error 2)"
  | .permissionDenied => "Permission denied (os error 13)"
  | .notDirectory => "Not a directory (os error 20)"
  | .isDirectory => "Is a directory (os error 21)"
  | .nameTooLong => "File name too long (os error 36)"
  | .notText => "stream did not contain valid UTF-8"

end ReadFailure

inductive Entry where
  | directory
  | file (bytes : List UInt8)

/-- Entries by the names leading to them from the root, which is a directory of its own. -/
structure Volume where
  entries : List (List String × Entry)
  /-- The directory a path not starting with `/` is resolved from. -/
  workDir : List String := []

namespace Volume

/-- The longest path, in bytes, is one less than this. -/
def pathLimit : Nat := 4096

def nameLimit : Nat := 255

def lookup (v : Volume) (place : List String) : Option Entry :=
  match place with
  | [] => some .directory
  | _ => (v.entries.find? (·.1 == place)).map (·.2)

def walk (v : Volume) (here : List String) :
    List String → Except ReadFailure (List String × Entry)
  | [] => .ok (here, .directory)
  | n :: ns =>
    if n.utf8ByteSize > nameLimit then .error .nameTooLong
    else
      let next := if n == "." then here else if n == ".." then here.dropLast else here ++ [n]
      match v.lookup next with
      | none => .error .notFound
      | some .directory => if ns.isEmpty then .ok (next, .directory) else v.walk next ns
      | some (.file b) => if ns.isEmpty then .ok (next, .file b) else .error .notDirectory

def read (v : Volume) (path : String) : Except ReadFailure String := do
  if path.utf8ByteSize ≥ pathLimit then throw .nameTooLong
  let names := (path.splitOn "/").filter (!·.isEmpty)
  let start := if path.startsWith "/" then [] else v.workDir
  let (_, entry) ← v.walk start names
  match entry with
  | .directory => throw .isDirectory
  | .file bytes =>
    if path.endsWith "/" then throw .notDirectory
    match String.fromUTF8? (ByteArray.mk bytes.toArray) with
    | some text => pure text
    | none => throw .notText

/-- The volume with a file of text `text` at `path` (an absolute path), replacing whatever
was there. -/
def withFile (v : Volume) (path : String) (text : String) : Volume :=
  let place := (path.splitOn "/").filter (!·.isEmpty)
  { v with entries := (place, .file text.toUTF8.toList) :: v.entries.filter (·.1 != place) }

def program : Entry :=
  .file [0x7f, 0x45, 0x4c, 0x46, 0x02, 0x01, 0x01, 0x00, 0x00, 0x00, 0x00, 0x00, 0x00, 0x00,
         0x00, 0x00, 0x03, 0x00, 0x3e, 0x00, 0x01, 0x00, 0x00, 0x00, 0xe0, 0x5a]

def textFile (text : String) : Entry := .file text.toUTF8.toList

/-- A Linux root file system with its usual directories, the null device, a few programs
and a few system files; paths not starting with `/` are resolved from the empty
directory `/work`. -/
def typical : Volume where
  entries :=
    ["bin", "boot", "dev", "dev/pts", "dev/shm", "etc", "home", "lib", "lib64", "media", "mnt",
     "opt", "proc", "proc/self", "root", "run", "sbin", "srv", "sys", "tmp", "usr", "usr/bin",
     "usr/lib", "usr/local", "usr/local/bin", "usr/sbin", "usr/share", "var", "var/lib",
     "var/log", "var/tmp", "work"].map (fun d => ((d.splitOn "/"), Entry.directory)) ++
    ["bin/sh", "bin/bash", "bin/cat", "bin/ls", "usr/bin/sh", "usr/bin/bash", "usr/bin/cat",
     "usr/bin/ls", "usr/bin/env"].map (fun f => ((f.splitOn "/"), program)) ++
    [(["dev", "null"], textFile ""),
     (["etc", "passwd"], textFile "root:x:0:0:root:/root:/bin/bash\n"),
     (["etc", "shadow"], textFile "root:*:19000:0:99999:7:::\n"),
     (["etc", "group"], textFile "root:x:0:\n"),
     (["etc", "hosts"], textFile "127.0.0.1\tlocalhost\n"),
     (["etc", "os-release"], textFile "PRETTY_NAME=\"Linux\"\n"),
     (["proc", "version"], textFile "Linux version 6.1.0\n"),
     (["proc", "cpuinfo"], textFile "processor\t: 0\n"),
     (["proc", "meminfo"], textFile "MemTotal:        1024 kB\n"),
     (["proc", "self", "status"], textFile "Name:\tovrbridge\n")]
  workDir := ["work"]

end Volume

end XrLayer.Cli

import StreamWidth.Files.Tree

/-!
What every system has besides the files of those who use it.
-/

namespace StreamWidth.System

def programNames : List String :=
  ["[", "basename", "bash", "cat", "cp", "cut", "dash", "dirname", "echo", "env", "false", "grep",
    "head", "kill", "ls", "mkdir", "mktemp", "mv", "od", "printf", "pwd", "rm", "rmdir", "sed", "seq",
    "sleep", "sort", "tail", "tee", "test", "timeout", "touch", "tr", "true", "uniq", "wc"]

def programMark : ByteArray :=
  ⟨#[0x7f, 0x45, 0x4c, 0x46, 2, 1, 1, 0]⟩

def programContent (name : String) : ByteArray :=
  programMark ++ name.toUTF8

/-- The installed program that a file holds. -/
def programOf? (content : ByteArray) : Option String :=
  if content.extract 0 programMark.size == programMark then
    (String.fromUTF8? (content.extract programMark.size content.size)).filter programNames.contains
  else none

def programDirectory : Location :=
  ["usr", "bin"]

def programs : List (Location × FileEntry) :=
  programNames.map fun name => (programDirectory ++ [name], .file (programContent name) 0o755)

def directories : List (Location × FileEntry) :=
  [(["boot"], 0o755), (["dev"], 0o755), (["dev", "pts"], 0o755), (["dev", "shm"], 0o1777),
    (["etc"], 0o755), (["home"], 0o755), (["media"], 0o755), (["mnt"], 0o755), (["opt"], 0o755),
    (["proc"], 0o555), (["proc", "self"], 0o555), (["proc", "self", "fd"], 0o500),
    (["root"], 0o700), (["run"], 0o755), (["srv"], 0o755), (["sys"], 0o555), (["tmp"], 0o1777),
    (["usr"], 0o755), (["usr", "bin"], 0o755), (["usr", "include"], 0o755), (["usr", "lib"], 0o755),
    (["usr", "lib64"], 0o755), (["usr", "local"], 0o755), (["usr", "local", "bin"], 0o755),
    (["usr", "local", "sbin"], 0o755), (["usr", "sbin"], 0o755), (["usr", "share"], 0o755),
    (["var"], 0o755), (["var", "cache"], 0o755), (["var", "lib"], 0o755), (["var", "log"], 0o755),
    (["var", "spool"], 0o755), (["var", "tmp"], 0o1777)].map fun (place, mode) =>
      (place, .directory mode)

def links : List (Location × FileEntry) :=
  [(["bin"], "usr/bin"), (["lib"], "usr/lib"), (["lib64"], "usr/lib64"), (["sbin"], "usr/sbin"),
    (["dev", "fd"], "/proc/self/fd"), (["dev", "stdin"], "/proc/self/fd/0"),
    (["dev", "stdout"], "/proc/self/fd/1"), (["dev", "stderr"], "/proc/self/fd/2"),
    (["usr", "bin", "sh"], "dash"), (["var", "run"], "/run")].map fun (place, target) =>
      (place, .link target)

def devices : List (Location × FileEntry) :=
  [("full", .full), ("null", .null), ("random", .random), ("tty", .terminal),
    ("urandom", .random), ("zero", .zero)].map fun (name, device) =>
      (["dev", name], .device device)

def entries : List (Location × FileEntry) :=
  directories ++ links ++ devices ++ programs

end StreamWidth.System

namespace StreamWidth.FileTree

def fresh (workingDirectory : String) : FileTree :=
  ⟨([workingDirectory], .directory 0o755) :: System.entries, [workingDirectory], usualMask⟩

end StreamWidth.FileTree

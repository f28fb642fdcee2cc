import FeatureRunner.Command.Basic
import FeatureRunner.Shell.Run

/-!
This module contains the launch of commands and programs in a tree of files. A command line is
carried out by a shell in the directory that it names, which has to be there. It serves the outer
layer, which starts real commands; no result is about it.
-/

namespace FeatureRunner
namespace Shell

def shellNames : List String := ["sh", "dash", "bash"]

def systemDirectories : List (List String) :=
  [["usr", "bin"], ["usr", "sbin"], ["usr", "local", "bin"], ["usr", "local", "sbin"],
   ["usr", "local", "lib"], ["usr", "local", "share"], ["usr", "lib"], ["usr", "share"],
   ["usr", "include"], ["usr", "src"], ["etc"], ["tmp"], ["home"], ["root"], ["var", "tmp"],
   ["var", "log"], ["var", "lib"], ["var", "cache"], ["opt"], ["proc", "self", "fd"],
   ["proc", "1"], ["sys", "kernel"], ["run"], ["mnt"],
   ["media"], ["srv"], ["boot"], ["dev", "shm"], ["dev", "pts"]]

def systemTexts : List (List String × String) :=
  [(["etc", "passwd"], "root:x:0:0:root:/root:/bin/bash\n" ++
      "nobody:x:65534:65534:nobody:/nonexistent:/usr/sbin/nologin\n"),
   (["etc", "group"], "root:x:0:\nnogroup:x:65534:\n"),
   (["etc", "hostname"], "localhost\n"),
   (["etc", "hosts"], "127.0.0.1\tlocalhost\n"),
   (["etc", "shells"], "/bin/sh\n/usr/bin/sh\n/bin/bash\n/usr/bin/bash\n"),
   (["etc", "resolv.conf"], "nameserver 127.0.0.1\n"),
   (["etc", "os-release"], "NAME=\"GNU/Linux\"\n"),
   (["etc", "fstab"], ""),
   (["proc", "version"], "Linux version 6\n"),
   (["proc", "cpuinfo"], "processor\t: 0\n"),
   (["proc", "meminfo"], "MemTotal:        8000000 kB\n"),
   (["proc", "self", "status"], "Name:\tsh\n")]

def systemFiles : List (List String × Node) :=
  [(["bin"], .link ⟨"usr/bin"⟩), (["sbin"], .link ⟨"usr/sbin"⟩), (["lib"], .link ⟨"usr/lib"⟩),
   (["lib64"], .link ⟨"usr/lib"⟩), (["var", "run"], .link ⟨"/run"⟩),
   (["dev", "null"], .device .null), (["dev", "zero"], .device .zero),
   (["dev", "full"], .device .full), (["dev", "random"], .device .random),
   (["dev", "urandom"], .device .random), (["dev", "tty"], .device .terminal),
   (["dev", "stdin"], .device .null), (["dev", "stdout"], .device .null),
   (["dev", "stderr"], .device .null), (["dev", "fd"], .link ⟨"/proc/self/fd"⟩)] ++
  (systemTexts.map fun (names, text) => (names, Node.plainFile text.toUTF8)) ++
  (shellNames ++ Utility.names).map fun name => (["usr", "bin", name], Program.file name)

def furnished (root : Node) : Node :=
  let root := systemDirectories.foldl (fun (root : Node) names =>
    if (root.at? names).isSome then root else root.put .emptyDirectory names) root
  systemFiles.foldl (fun (root : Node) (names, node) => root.put node names) root

def systemRoot : Node :=
  furnished .emptyDirectory

structure Finished where
  ending : Ending
  output : String
  errors : String
  disk : Disk

def environment : List (String × String) :=
  [("PATH", defaultPath), ("HOME", "/root")]

def startState (root : Node) (cwd : List String) (input : List Char) : State :=
  { cwd
    descriptors := [(0, 0), (1, 1), (2, 2)]
    bindings := environment.map fun (name, value) =>
      (name, { value := some value, isExported := true })
    disk := .ofRoot root
    channels := #[.source input, .sink [] none, .sink [] none] }

def finished (s : State) (action : Action Ending) : Finished :=
  let (ending, s) := action.run s
  ⟨ending, ofBytes (s.written 1), ofBytes (s.written 2), s.disk⟩

def inputChars (input : List UInt8) : List Char :=
  input.map fun b => Char.ofNat b.toNat

def launchCommand (root : Node) (cwd : List String) (input : List UInt8) (c : Command)
    : Except IoFault Finished :=
  if c.line.toList.contains '\x00' then .error .invalidInput
  else
    match Files.find root cwd c.directory with
    | .error fault => .error fault
    | .ok names =>
      if ((root.at? names).map Node.isDirectory).getD false then
        let s := startState root names (inputChars input)
        .ok (finished s (runShell maxSteps false ["sh", "-c", toBytes c.line]))
      else .error .notADirectory

def launchProgram (root : Node) (cwd : List String) (program : String)
    (arguments : List String) : Except IoFault Finished :=
  if (program :: arguments).any fun a => a.toList.contains '\x00' then .error .invalidInput
  else
    let s := startState root cwd []
    let (i, s) := s.add (.device .null)
    let s := (((s.bind 0 i).bind 1 i).bind 2 i)
    match (Program.search s (toBytes program) ((program :: arguments).map toBytes)).2 with
    | .error fault => .error fault
    | .ok (utility, argv) => .ok (finished s (asChild (runProgram maxSteps utility argv)))

end Shell
end FeatureRunner

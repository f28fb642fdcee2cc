import FeatureRunner.Utility.Files

/-!
This module contains the utilities that give files to somebody and put programs into their places.
Everything belongs to one user, so that only the words of the former matter. It serves the outer
layer, where commands start programs; no result is about it.
-/

namespace FeatureRunner
namespace Utility

open Shell

def userNames : List String :=
  ["root", "daemon", "bin", "sys", "sync", "games", "man", "lp", "mail", "news", "uucp", "proxy",
   "www-data", "backup", "list", "irc", "_apt", "nobody", "nogroup", "adm", "tty", "disk", "staff",
   "users"]

def isUser (text : String) : Bool :=
  text.isEmpty || userNames.contains text || (number? text).isSome

def giving (isGroup : Bool) : Utility := fun arguments =>
  let options : Options :=
    { flags := "Rvchf"
      long := [("recursive", "R", false), ("verbose", "v", false), ("changes", "c", false),
        ("silent", "f", false), ("quiet", "f", false), ("no-dereference", "h", false),
        ("reference", "reference", true)] }
  withOptions options 1 arguments fun name a => do
    let operands := if a.has "reference" then "root" :: a.operands else a.operands
    match operands with
    | [] => misuse name "missing operand"
    | [only] => misuse name ("missing operand after " ++ quote only)
    | owner :: paths =>
      let names := (Text.segments ':' owner.toList).map String.ofList
      let complaint? : Option String :=
        if isGroup then if isUser owner then none else some ("invalid group: " ++ quote owner)
        else
          match names with
          | user :: groups =>
            if !isUser user then some ("invalid user: " ++ quote owner)
            else if groups.all isUser then none
            else some ("invalid group: " ++ quote owner)
          | [] => none
      match complaint? with
      | some complaint =>
        complainAs name complaint
        pure 1
      | none =>
        forEach paths fun path => do
          let s ← get
          match if a.has "h" then s.entry path else s.find path with
          | .ok _ =>
            if a.has "v" then
              print ((if isGroup then "group" else "ownership") ++ " of " ++ quoteName path ++
                " retained as " ++ owner ++ "\n")
            pure true
          | .error f =>
            if a.has "f" then pure false
            else failing name ("cannot access " ++ quoteName path) f

def installedMode (a : Arguments) (isDirectory : Bool) : Nat :=
  ((a.value? "m").bind fun m => Mode.changed? isDirectory 0 0 m).getD 0o755

def installTo (name : String) (a : Arguments) (source target : String) : Action Bool := do
  if (← get).isDirectory source then
    complainAs name ("omitting directory " ++ quoteName source)
    pure false
  else if ← copyTo name { a with options := a.options.filter (·.1 == "v") } 2 true source target then
    match (← get).find target with
    | .ok names =>
      onDisk fun d => d.stamp names ⟨installedMode a false, d.time⟩
      pure true
    | .error _ => pure true
  else pure false

def install : Utility := fun arguments =>
  let options : Options :=
    { flags := "dDvpCcsTb", valued := "motgS"
      long := [("directory", "d", false), ("mode", "m", true), ("owner", "o", true),
        ("group", "g", true), ("target-directory", "t", true), ("verbose", "v", false),
        ("no-target-directory", "T", false), ("preserve-timestamps", "p", false)] }
  withOptions options 1 arguments fun name a => do
    if a.has "d" then
      if a.operands.isEmpty then misuse name "missing file operand"
      else
        let parents : Arguments := { options := [("p", "")] }
        forEach a.operands fun path => do
          if ← makeDirectories name parents (leadingPaths path) then
            if let .ok names := (← get).find path then
              if let some node := (← get).disk.at? names then
                onDisk (·.stamp names { node.stamp with mode := installedMode a true })
            pure true
          else pure false
    else
      if a.has "D" then
        if let some target := a.operands.getLast? then
          let parents : Arguments := { options := [("p", "")] }
          let _ ← makeDirectories name parents (leadingPaths (directoryName target))
      bringing a name (installTo name a)

end Utility
end FeatureRunner

import FeatureRunner.Utility.Awk
import FeatureRunner.Utility.Compare
import FeatureRunner.Utility.Dump
import FeatureRunner.Utility.Fields
import FeatureRunner.Utility.Find
import FeatureRunner.Utility.Folder
import FeatureRunner.Utility.Owner
import FeatureRunner.Utility.Pieces
import FeatureRunner.Utility.Sed

/-!
This module contains the utilities by their names. It serves the outer layer, where commands start
programs; no result is about it.
-/

namespace FeatureRunner
namespace Utility

open Shell

def table : List (String × Utility) :=
  [("[", test), ("arch", saying "x86_64"), ("base64", base64), ("basename", basename),
   ("cat", cat), ("chgrp", giving true), ("chmod", chmod), ("chown", giving false),
   ("cksum", cksum), ("cmp", cmp), ("comm", comm), ("cp", cp), ("cut", cut), ("date", date),
   ("dd", dd), ("diff", diff), ("dirname", dirname), ("echo", echo), ("egrep", grep),
   ("expand", expand), ("expr", expr), ("factor", factor), ("false", fail), ("fgrep", grep),
   ("fold", fold), ("grep", grep), ("groups", saying "root"), ("head", head),
   ("hostname", saying "localhost"), ("id", id'), ("install", install), ("join", join),
   ("link", link), ("ln", ln), ("logname", logname), ("ls", ls), ("md5sum", digesting Digest.md5),
   ("mkdir", mkdir), ("mktemp", mktemp), ("mv", mv), ("nl", nl), ("nproc", saying "1"), ("od", od),
   ("paste", paste), ("printenv", printenv), ("printf", printf), ("pwd", pwd),
   ("readlink", readlink), ("realpath", realpath), ("rev", rev), ("rm", rm), ("rmdir", rmdir),
   ("sed", sed), ("seq", seq), ("sha1sum", digesting Digest.sha1),
   ("sha256sum", digesting Digest.sha256), ("sleep", sleep), ("sort", sort), ("split", split),
   ("stat", stat), ("sum", sum), ("sync", succeed), ("tac", tac), ("tail", tail), ("tee", tee),
   ("test", test), ("touch", touch), ("tr", tr), ("true", succeed), ("truncate", truncate),
   ("tty", tty), ("uname", uname), ("uniq", uniq), ("unlink", unlink), ("wc", wc),
   ("which", which), ("whoami", saying "root"), ("yes", yes)]

def wrappers : List (String × Wrapper) :=
  [("awk", awk), ("env", env), ("find", find), ("mawk", awk), ("nice", nice), ("nohup", nohup),
   ("setsid", setsid), ("stdbuf", stdbuf), ("timeout", timeout), ("xargs", xargs)]

def names : List String :=
  table.map (·.1) ++ wrappers.map (·.1)

end Utility
end FeatureRunner

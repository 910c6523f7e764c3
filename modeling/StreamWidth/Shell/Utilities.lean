import StreamWidth.Shell.Utilities.Columns
import StreamWidth.Shell.Utilities.Dump
import StreamWidth.Shell.Utilities.Files
import StreamWidth.Shell.Utilities.Grep
import StreamWidth.Shell.Utilities.Lines
import StreamWidth.Shell.Utilities.Listing
import StreamWidth.Shell.Utilities.Names
import StreamWidth.Shell.Utilities.Order
import StreamWidth.Shell.Utilities.Sed

/-!
The utilities by their names.
-/

namespace StreamWidth.Shell

def utility? (name : String) : Option Utility :=
  match name with
  | "basename" => some baseNameUtility
  | "cat" => some catUtility
  | "cp" => some copyUtility
  | "cut" => some cutUtility
  | "dirname" => some directoryNameUtility
  | "grep" => some grepUtility
  | "head" => some headUtility
  | "ls" => some listUtility
  | "mkdir" => some makeDirectoryUtility
  | "mktemp" => some temporaryUtility
  | "mv" => some moveUtility
  | "od" => some Dump.utility
  | "rm" => some removeUtility
  | "rmdir" => some removeDirectoryUtility
  | "sed" => some Sed.utility
  | "seq" => some sequenceUtility
  | "sort" => some sortUtility
  | "tail" => some tailUtility
  | "tee" => some teeUtility
  | "touch" => some touchUtility
  | "tr" => some trUtility
  | "uniq" => some uniqUtility
  | "wc" => some wcUtility
  | _ => none

end StreamWidth.Shell

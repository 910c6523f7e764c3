import StreamWidth.Files.Tree
import StreamWidth.Text.Utf8

/-!
Stand-ins for a simulator: scripts whose every effect is laid down beforehand. They leave a record of
what they were asked to do.
-/

namespace StreamWidth

structure StandIn where
  echo : Bool
  output : Option ByteArray
  errors : ByteArray
  wipe : Bool
  /-- The exit status; none if the program stops itself by a signal. -/
  status : Option Nat

namespace StandIn

def statusRange : Nat :=
  256

def argumentRecord : String :=
  "/run/stand-in-arguments"

def inputRecord : String :=
  "/run/stand-in-input"

def escapedByte (byte : UInt8) : String :=
  let digits := Nat.toDigits 8 byte.toNat
  "\\0" ++ String.ofList (List.replicate (3 - digits.length) '0' ++ digits)

def printing (content : ByteArray) : String :=
  "printf %b '" ++ String.join (content.toList.map escapedByte) ++ "'"

/-- The names of the files stand behind their options, of which the last ones count. -/
def preparation : List String :=
  ["printf '%s\\0' \"$@\" > " ++ argumentRecord,
    "for word do case $last in --in) in=$word;; --out) out=$word;; esac; last=$word; done",
    "[ -f \"$in\" ] && cat \"$in\" > " ++ inputRecord]

def commands (standIn : StandIn) : List String :=
  preparation ++
    (if standIn.echo then ["cat \"$in\" > \"$out\""] else []) ++
    (standIn.output.map fun content => printing content ++ " > \"$out\"").toList ++
    (if standIn.errors.isEmpty then [] else [printing standIn.errors ++ " >&2"]) ++
    (if standIn.wipe then ["rm -rf \"$\x7bin%/*\x7d\""] else []) ++
    [match standIn.status with
      | some status => "exit " ++ toString status
      | none => "kill -KILL $$"]

def arguments (standIn : StandIn) : List String :=
  ["-c", "\n".intercalate standIn.commands, "sim"]

def record? (files : FileTree) (path : String) : Option String :=
  (files.read path).toOption.map fun content =>
    String.ofList (Text.decodeLossy content.toList)

def seenArguments? (files : FileTree) : Option (List String) :=
  (record? files argumentRecord).map fun text => (text.splitOn "\x00").dropLast

def seenInput? (files : FileTree) : Option String :=
  record? files inputRecord

end StandIn

end StreamWidth

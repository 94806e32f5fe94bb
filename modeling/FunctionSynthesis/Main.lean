import FunctionSynthesis.CommandLine

/-!
# The program

The program looks up the files that its words may lead to, performs what the
words ask for, shows the result and writes the files that are new. It starts no
other programs, and its clock stands still.
-/

namespace FunctionSynthesis.CommandLine

/-- The paths that a request may read or write. -/
def Request.paths (workplace : List String) : Request → List Path
  | .run options (some command) =>
      let settings :=
        match options.config.getD "" with
        | "" =>
            (Path.outward workplace).flatMap fun place =>
              Settings.fileNames.map fun name => Path.ofPlace (place ++ [name])
        | named => [Path.ofText named]
      let own :=
        match command with
        | .synth order => order.file :: order.output.toList
        | _ => []
      settings ++ own.map Path.ofText
  | _ => []

/-- The places on the way to where paths lead. -/
def placesOf (workplace : List String) (paths : List Path) :
    List (List String) :=
  let ways := paths.flatMap fun path =>
    let whole := (Path.append (Path.ofPlace workplace) path).parts
    (Path.outward whole).map Path.collapse
  ways.eraseDups

/-- The files whose texts differ from what they were. -/
def changed (before after : Files) : List (List String × String) :=
  after.files.filter fun file => !before.files.contains file

/-- The name of a place for the system. -/
def nameOf (place : List String) : String :=
  (Path.ofPlace place).text

/-- The files with what is at a place. -/
def lookUp (files : Files) (place : List String) : IO Files := do
  let name := nameOf place
  let here ← IO.currentDir
  if ← (here / name).isDir then
    return { files with directories := place :: files.directories }
  else
    try
      let text ← IO.FS.readFile name
      return { files with files := (place, text) :: files.files }
    catch _ => return files

/-- The files that a request needs. -/
def lookUpAll (request : Request) : IO Files := do
  let workplace := Path.partsOf (← IO.currentDir).toString
  let places := placesOf workplace (request.paths workplace)
  places.foldlM lookUp { workplace }

/-- Show how a performance ended. -/
def finish (ending : Ending) : IO UInt32 := do
  match ending with
  | .returned code => return code.toUInt32
  | .stopped code => return code.toUInt32
  | .failed failure => do
      (← IO.getStderr).putStr (failure.headline ++ "\n")
      return 1

end FunctionSynthesis.CommandLine

open FunctionSynthesis FunctionSynthesis.CommandLine

def main (words : List String) : IO UInt32 := do
  let request := Request.ofWords words
  let files ← lookUpAll request
  let stdout ← IO.getStdout
  let stderr ← IO.getStderr
  let result := request.perform
    { files, outIsTerminal := ← stdout.isTty, errIsTerminal := ← stderr.isTty }
  stdout.putStr result.transcript.out
  stderr.putStr result.transcript.err
  for (place, text) in changed files result.files do
    IO.FS.writeFile (nameOf place) text
  finish result.ending

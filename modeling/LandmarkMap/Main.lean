import LandmarkMap.Pipeline
import LandmarkMap.Json.Printer

set_option autoImplicit false

/-!
The command: an optional configuration file, and an optional file for the cloud of the good
landmarks.
-/

open LandmarkMap

def readContents (path : String) : IO (Option String) := do
  try return some (← IO.FS.readFile path) catch _ => return none

def writeContents (path contents : String) : IO Bool := do
  try
    IO.FS.writeFile path contents
    return true
  catch _ => return false

def main (arguments : List String) : IO UInt32 := do
  let configPath : Option String := arguments[0]?
  let cloudPath : Option String := arguments[1]?
  let file ← configPath.mapM fun path => return (path, ← readContents path)
  -- One thread is as good as many: the passes answer alike with any number of them.
  let result := runCommand Numeral.nearest? 1 file
  for line in result.errorLine.toList ++ result.lines do
    IO.eprintln line
  match result.report, cloudPath with
  | some report, some path =>
      if ← writeContents path (String.ofList report.cloud.toJson.render) then
        return result.exitCode
      else
        IO.eprintln ("Error: failed to create " ++ path)
        return 1
  | _, _ => return result.exitCode

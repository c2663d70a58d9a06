import CollectionGlue.ProgramRuns

/-! # The command line on the real file system

The program is that of `ProgramRuns`; here its file system reads and writes the real files.
-/
namespace CollectionGlue.CommandLine

def faultOfCode (code : UInt32) (details : String) : SystemFault :=
  if code = 2 then .notFound
  else if code = 17 then .alreadyExists
  else if code = 20 then .notDirectory
  else if code = 21 then .isDirectory
  else if code = 36 then .nameTooLong
  else .other (details ++ " (os error " ++ toString code ++ ")")

def systemFault : IO.Error → SystemFault
  | .alreadyExists _ code details => faultOfCode code details
  | .otherError code details => faultOfCode code details
  | .resourceBusy code details => faultOfCode code details
  | .resourceVanished code details => faultOfCode code details
  | .unsupportedOperation code details => faultOfCode code details
  | .hardwareFault code details => faultOfCode code details
  | .unsatisfiedConstraints code details => faultOfCode code details
  | .illegalOperation code details => faultOfCode code details
  | .protocolError code details => faultOfCode code details
  | .timeExpired code details => faultOfCode code details
  | .interrupted _ code details => faultOfCode code details
  | .noFileOrDirectory _ code details => faultOfCode code details
  | .invalidArgument _ code details => faultOfCode code details
  | .permissionDenied _ code details => faultOfCode code details
  | .resourceExhausted _ code details => faultOfCode code details
  | .inappropriateType _ code details => faultOfCode code details
  | .noSuchThing _ code details => faultOfCode code details
  | .unexpectedEof => .other "unexpected end of file"
  | .userError text => .other text

def attempt {α : Type} (action : IO α) : IO (Except SystemFault α) := do
  match ← action.toBaseIO with
  | .ok a => return .ok a
  | .error e => return .error (systemFault e)

def readText (path : String) : IO (Except SystemFault String) := do
  match ← attempt (IO.FS.withFile path .read fun handle => handle.readBinToEnd) with
  | .error fault => return .error fault
  | .ok content =>
    match String.fromUTF8? content with
    | some text => return .ok text
    | none => return .error .notUtf8

def isDirectory (path : String) : IO Bool := do
  match ← attempt (do (← IO.FS.realPath path).isDir) with
  | .ok answer => return answer
  | .error _ => return false

def system : FileSystem IO where
  readText := readText
  makeDirectory path := attempt (IO.FS.createDir path)
  isDirectory := isDirectory
  writeFile path content := attempt (IO.FS.writeBinFile path content)

def start (arguments : List String) : IO UInt32 := do
  let level := LogLevel.ofSetting (← IO.getEnv "RUST_LOG")
  let output ← program level.shows arguments system
  IO.eprint output.stderr
  IO.print output.stdout
  return UInt32.ofNat output.exitCode

end CollectionGlue.CommandLine

def main (arguments : List String) : IO UInt32 := CollectionGlue.CommandLine.start arguments

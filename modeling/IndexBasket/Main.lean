import IndexBasket.CommandLine.Basic
import IndexBasket.Files.Path
import IndexBasket.Text.Moment

open IndexBasket

def causeOf : IO.Error → FileError
  | .noFileOrDirectory _ _ _ => .notFound
  | .alreadyExists _ _ _ => .alreadyExists
  | .inappropriateType _ 20 _ => .notDirectory
  | .inappropriateType _ 21 _ => .isDirectory
  | .invalidArgument _ 36 _ => .nameTooLong
  | cause => .other (toString cause)

def tryFile {α : Type} (act : IO α) : IO (Except FileError α) := do
  match ← act.toBaseIO with
  | .ok value => return .ok value
  | .error cause => return .error (causeOf cause)

/-- The time of day is that of a file that has just been made. -/
def timeOfDay : IO String := do
  let (_, file) ← IO.FS.createTempFile
  let made := (← file.metadata).modified
  IO.FS.removeFile file
  return Moment.text made.sec.toNat made.nsec.toNat

/-- Asks on the terminal. What is neither yes nor no counts as no. -/
def askTerminal (question : String) : IO (Except String Bool) := do
  let terminal ← IO.getStdin
  if !(← terminal.isTty) then return .error "IO error: not a terminal"
  IO.eprint s!"{question} [y/N] "
  let answer ← terminal.getLine
  return .ok (answer.toList.head? = some 'y' || answer.toList.head? = some 'Y')

instance : Host IO where
  readText path := tryFile (IO.FS.readFile path)
  openLog path := tryFile do
    if let some names := Path.parent? path then
      let directory := String.intercalate "/" names
      if directory ≠ "" then IO.FS.createDirAll directory
    let _ ← IO.FS.Handle.mk path .append
  append path line := tryFile do
    let log ← IO.FS.Handle.mk path .append
    log.putStrLn line
    log.flush
  printLine line := IO.println line
  confirm := askTerminal
  now := timeOfDay

def main (arguments : List String) : IO UInt32 := do
  let outcome ← CommandLine.execute arguments
  IO.print outcome.output
  IO.eprint outcome.complaint
  return outcome.code

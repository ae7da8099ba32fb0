import IndexBasket.Files.Tree
import IndexBasket.Run.Host
import IndexBasket.Text.Moment

namespace IndexBasket

/-- A host in memory. -/
structure Machine where
  files : Files
  printed : List String := []
  /-- What comes of every question. -/
  answer : Except String Bool := .error "IO error: not a terminal"
  /-- What the clock shows, each time that it is read. -/
  times : Nat → String := fun reading => Moment.text reading 0
  readings : Nat := 0

namespace Machine

def onFiles {α : Type} (act : Action FileError Files α) : StateM Machine (Except FileError α) := fun machine =>
  let (answer, files) := act.ending machine.files
  (answer, { machine with files })

instance : Host (StateM Machine) where
  readText path := return (← get).files.readText path
  openLog path := onFiles (Files.openLog path)
  append path line := onFiles (Files.append path line)
  printLine line := modify fun machine => { machine with printed := machine.printed ++ [line] }
  confirm _ := return (← get).answer
  now := modifyGet fun machine => (machine.times machine.readings, { machine with readings := machine.readings + 1 })

end Machine

end IndexBasket

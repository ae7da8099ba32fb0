import IndexBasket.Files.Error

namespace IndexBasket

/-- What a run needs of a disk. -/
class Disk (m : Type → Type) where
  readText : String → m (Except FileError String)
  /-- Makes a log ready to be written to: its directories and the file itself. -/
  openLog : String → m (Except FileError Unit)
  /-- Adds a line to a log that has been opened, and tells whether it was written. -/
  append : String → String → m (Except FileError Unit)

end IndexBasket

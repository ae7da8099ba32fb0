import IndexBasket.Files.Disk

namespace IndexBasket

/-- What a run needs of a terminal. -/
class Terminal (m : Type → Type) where
  printLine : String → m Unit
  /-- Puts a question that is answered with yes or no, or says why it could not be put. -/
  confirm : String → m (Except String Bool)

/-- What a run needs of a clock. The time at which it trades is another one, that of its
scenario. -/
class Clock (m : Type → Type) where
  /-- The time of day, as it is written. -/
  now : m String

/-- All that a run finds around it. -/
class Host (m : Type → Type) extends Disk m, Terminal m, Clock m

end IndexBasket

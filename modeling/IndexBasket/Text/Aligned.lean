namespace IndexBasket

namespace Text

/-- Text at the left edge of a column. Widths count characters, and text that is
too long is never cut. -/
def alignLeft (width : Nat) (text : String) : String :=
  text ++ String.ofList (List.replicate (width - text.length) ' ')

def alignRight (width : Nat) (text : String) : String :=
  String.ofList (List.replicate (width - text.length) ' ') ++ text

/-- Text in the middle of a column. An odd filler goes to the right. -/
def alignCentre (fill : Char) (width : Nat) (text : String) : String :=
  let space := width - text.length
  String.ofList (List.replicate (space / 2) fill) ++ text ++
    String.ofList (List.replicate (space - space / 2) fill)

def truncate (width : Nat) (text : String) : String :=
  String.ofList (text.toList.take width)

end Text

end IndexBasket

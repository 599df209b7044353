/-! Text in columns. Widths count characters, and a text that is too long is kept whole. -/
namespace DeviceSupport.Column
set_option autoImplicit false

/-- Fills up with blanks on the right. -/
def left (width : Nat) (text : String) : String :=
  text ++ String.ofList (List.replicate (width - text.length) ' ')

/-- A number filled up with zeros on the left. -/
def digits (width n : Nat) : String :=
  let text := toString n
  String.ofList (List.replicate (width - text.length) '0') ++ text

end DeviceSupport.Column

import DeviceSupport.Text.Hidden

/-! Text between quotes, with what cannot be seen written out: short forms for NUL, tab, line ends,
the backslash and the quote, and the code point in hexadecimal for other hidden characters. -/
namespace DeviceSupport.Quoted
set_option autoImplicit false

def hexadecimal (n : Nat) : String := String.ofList (Nat.toDigits 16 n)

def escape (c : Char) : String :=
  if c = Char.ofNat 0 then "\\0"
  else if c = '\t' then "\\t"
  else if c = '\r' then "\\r"
  else if c = '\n' then "\\n"
  else if c = '\\' then "\\\\"
  else if c = '"' then "\\\""
  else if isHidden c then "\\u\x7b" ++ hexadecimal c.toNat ++ "\x7d"
  else String.singleton c

def quote (text : String) : String :=
  text.toList.foldl (fun written c => written ++ escape c) "\"" ++ "\""

end DeviceSupport.Quoted

/-! Indented JSON text. -/
namespace FieldGate.Document

/-- A document to be written: an atom stands as it is. -/
inductive Layout
  | atom (text : String)
  | array (items : List Layout)
  | object (members : List (String × Layout))

namespace Layout

def hexDigit (n : Nat) : Char := Nat.digitChar n

/-- A character within quotes. Only quotes, backslashes and controls are escaped. -/
def escapeChar (c : Char) : List Char :=
  if c == '"' then ['\\', '"']
  else if c == '\\' then ['\\', '\\']
  else if c == '\n' then ['\\', 'n']
  else if c == '\r' then ['\\', 'r']
  else if c == '\t' then ['\\', 't']
  else if c == '\x08' then ['\\', 'b']
  else if c == '\x0C' then ['\\', 'f']
  else if c.toNat < 0x20 then
    ['\\', 'u', '0', '0', hexDigit (c.toNat / 16), hexDigit (c.toNat % 16)]
  else [c]

def quote (s : String) : String :=
  String.ofList ('"' :: s.toList.flatMap escapeChar ++ ['"'])

def text (s : String) : Layout := atom (quote s)

def nat (n : Nat) : Layout := atom (toString n)

def bool (b : Bool) : Layout := atom (if b then "true" else "false")

def newLine (level : Nat) : String := "\n" ++ String.ofList (List.replicate (2 * level) ' ')

/-- Lines in brackets, one a line with commas between them; nothing at all between the brackets if
there are none. -/
def block (opening closing : String) (level : Nat) (lines : List String) : String :=
  if lines.isEmpty then opening ++ closing
  else opening ++ newLine (level + 1) ++ (("," ++ newLine (level + 1)).intercalate lines) ++
    newLine level ++ closing

mutual

def write (level : Nat) : Layout → String
  | atom s => s
  | array items => block "[" "]" level (writeItems level items)
  | object members => block "\x7b" "\x7d" level (writeMembers level members)

def writeItems (level : Nat) : List Layout → List String
  | [] => []
  | v :: rest => write (level + 1) v :: writeItems level rest

def writeMembers (level : Nat) : List (String × Layout) → List String
  | [] => []
  | (key, v) :: rest => (quote key ++ ": " ++ write (level + 1) v) :: writeMembers level rest

end

end Layout

end FieldGate.Document

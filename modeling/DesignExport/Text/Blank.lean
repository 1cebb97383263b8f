set_option autoImplicit false

/-! Blank characters in the sense of the Unicode property, and text without the
blanks around it. -/

namespace DesignExport.Text

def isBlank (char : Char) : Bool :=
  let code := char.toNat
  (9 ≤ code && code ≤ 13) || code = 32 || code = 0x85 || code = 0xA0 || code = 0x1680 ||
  (0x2000 ≤ code && code ≤ 0x200A) || code = 0x2028 || code = 0x2029 || code = 0x202F ||
  code = 0x205F || code = 0x3000

def trimStart (text : List Char) : List Char :=
  text.dropWhile isBlank

def trimEnd (text : List Char) : List Char :=
  (text.reverse.dropWhile isBlank).reverse

/-- The text without the blanks at both ends. -/
def trim (text : String) : String :=
  String.ofList (trimEnd (trimStart text.toList))

def withoutBlanks (text : List Char) : List Char :=
  text.filter (fun char => !isBlank char)

end DesignExport.Text

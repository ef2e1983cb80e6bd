set_option autoImplicit false

namespace VideoRelay.Text

/-- The 25 characters with the Unicode property White_Space. -/
def isBlankChar (c : Char) : Bool :=
  let point := c.toNat
  (9 <= point && point <= 13) || point == 32 || point == 0x85 || point == 0xa0 || point == 0x1680 ||
    (0x2000 <= point && point <= 0x200a) || point == 0x2028 || point == 0x2029 || point == 0x202f ||
    point == 0x205f || point == 0x3000

def trimChars (chars : List Char) : List Char :=
  ((chars.dropWhile isBlankChar).reverse.dropWhile isBlankChar).reverse

def trim (text : String) : String :=
  String.ofList (trimChars text.toList)

def isBlank (text : String) : Bool :=
  text.toList.all isBlankChar

end VideoRelay.Text

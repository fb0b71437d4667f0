import CommandShell.Text.WordTable

/-! # Word characters -/

namespace CommandShell.Text

/-- Letters, numbers and the underscore. -/
def isWord (c : Char) : Bool :=
  if c.toNat < 128 then c.isAlphanum || c == '_' else wordRanges.has c.toNat

end CommandShell.Text

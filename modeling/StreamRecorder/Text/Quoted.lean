import StreamRecorder.Text.Extending
import StreamRecorder.Text.Hex
import StreamRecorder.Text.Printable

namespace StreamRecorder.Text

/-- The Hangul fillers, letters that show nothing. -/
def isFiller (c : Char) : Bool :=
  c = '\u115f' || c = '\u1160' || c = '\u3164' || c = '\uffa0'

/-- The sound marks of halfwidth kana, which extend a character but stand in a cell of their own. -/
def isHalfwidthMark (c : Char) : Bool :=
  c = '\uff9e' || c = '\uff9f'

def isVisible (c : Char) : Bool :=
  isPrintable c && !isFiller c && (!isExtending c || isHalfwidthMark c)

def quotedChar (c : Char) : List Char :=
  if c = '\x00' then ['\\', '0']
  else if c = '\t' then ['\\', 't']
  else if c = '\r' then ['\\', 'r']
  else if c = '\n' then ['\\', 'n']
  else if c = '\\' then ['\\', '\\']
  else if c = '"' then ['\\', '"']
  else if isVisible c then [c]
  else '\\' :: 'u' :: '\x7b' :: (Hex.ofNat c.toNat ++ ['\x7d'])

def quoted (text : String) : String :=
  "\"" ++ String.ofList (text.toList.flatMap quotedChar) ++ "\""

end StreamRecorder.Text

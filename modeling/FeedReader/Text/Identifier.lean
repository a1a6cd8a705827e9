import FeedReader.Text.Digits
import FeedReader.Text.Letters
import FeedReader.Text.Marks

/-!
# Identifiers

An identifier begins with a letter or an underscore and goes on with letters, decimal digits and
combining marks. A few signs count as letters, and numeric characters that are no digits do not.

* `startsIdentifier`, `continuesIdentifier`, `isIdentifier`.
-/

namespace FeedReader.Text

/-- Numeric characters, and forms of letters, that stand in no identifier's first place. -/
def nonLetters : Ranges :=
  [(178, 179), (185, 185), (188, 190), (890, 890), (2548, 2553), (2930, 2935), (3056, 3058),
   (3192, 3198), (3416, 3422), (3440, 3448), (3635, 3635), (3763, 3763), (3882, 3891),
   (4969, 4988), (6128, 6137), (6618, 6618), (8304, 8304), (8308, 8313), (8320, 8329),
   (8528, 8543), (8585, 8585), (9312, 9371), (9450, 9471), (10102, 10131), (11517, 11517),
   (11823, 11823), (12690, 12693), (12832, 12841), (12872, 12879), (12881, 12895), (12928, 12937),
   (12977, 12991), (43056, 43061), (64606, 64611), (65018, 65019), (65136, 65136), (65138, 65138),
   (65140, 65140), (65142, 65142), (65144, 65144), (65146, 65146), (65148, 65148), (65150, 65150),
   (65438, 65439), (65799, 65843), (65909, 65912), (65930, 65931), (66273, 66299), (66336, 66339),
   (67672, 67679), (67705, 67711), (67751, 67759), (67835, 67839), (67862, 67867), (68028, 68029),
   (68032, 68047), (68050, 68095), (68160, 68168), (68221, 68222), (68253, 68255), (68331, 68335),
   (68440, 68447), (68472, 68479), (68521, 68527), (68858, 68863), (69216, 69246), (69405, 69414),
   (69457, 69460), (69573, 69579), (69714, 69733), (70113, 70132), (71482, 71483), (71914, 71922),
   (72794, 72812), (73664, 73684), (93019, 93025), (93824, 93846), (119520, 119539),
   (119648, 119672), (125127, 125135), (126065, 126123), (126125, 126127), (126129, 126132),
   (126209, 126253), (126255, 126269), (127232, 127244)]

/-- Signs that count as letters. -/
def letterSigns : Ranges :=
  [(6277, 6278), (8472, 8472), (8494, 8494)]

/-- Characters of other kinds that may stand in an identifier after the first place. -/
def joiningSigns : Ranges :=
  [(183, 183), (903, 903), (3635, 3635), (3763, 3763), (4969, 4977), (6618, 6618), (8255, 8256),
   (8276, 8276), (65075, 65076), (65101, 65103), (65343, 65343), (65438, 65439)]

/-- Whether an identifier can begin with a character. -/
def startsIdentifier (c : Char) : Bool :=
  isWordChar c && !isDigit c && !nonLetters.contains c || letterSigns.contains c

/-- Whether an identifier can go on with a character. -/
def continuesIdentifier (c : Char) : Bool :=
  startsIdentifier c || isDigit c || isMark c && !enclosing.contains c || joiningSigns.contains c

/-- Whether a text is an identifier. -/
def isIdentifier : Text → Bool
  | [] => false
  | c :: t => startsIdentifier c && t.all continuesIdentifier

end FeedReader.Text

import LaunchIndex.Text.LowerCase
import LaunchIndex.Text.Trim
import LaunchIndex.Value.Name

/-! Keyboard shortcuts. A shortcut is written as parts with plus signs between them; the key
binder wants each modifier in angle brackets, as it was spelled, and the key in small
letters. Blank parts count for nothing. -/

namespace LaunchIndex.Shortcut

def plus : CodePoint := CodePoint.ofChar '+'

def default : Text := "<Super>space"

def modifiers : List Text := ["alt", "control", "ctrl", "shift", "super"]

def isModifier (part : Text) : Bool := modifiers.contains (Text.lower part)

/-- A part without blanks around it, as the key binder wants it. -/
def convertPart (part : Text) : Text :=
  if isModifier part then
    CodePoint.ofChar '<' :: part ++ [CodePoint.ofChar '>']
  else Text.lower part

/-- The parts of a shortcut without the blanks around them. -/
def parts (shortcut : Text) : List Text := (shortcut.splitOn plus).map Text.trim

/-- The shortcut for the key binder; there is none if every part is blank. -/
def convert (shortcut : Text) : Option Text :=
  if (parts shortcut).all List.isEmpty then none
  else some ((parts shortcut).flatMap convertPart)

/-- Conversion of a value of any kind; empty values have no shortcut. -/
def convertValue (v : Value) : Outcome (Option Text) :=
  if v.isEmpty then .ok none else (v.textFor "split").map convert

end LaunchIndex.Shortcut

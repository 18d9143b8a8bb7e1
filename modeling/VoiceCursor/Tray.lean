import VoiceCursor.Surface

namespace VoiceCursor

/-! The words of a command in progress, as shown to the speaker. -/

structure Tray where
  words : List String
  deriving DecidableEq

namespace Tray

def empty : Tray := ⟨[]⟩

def add (tray : Tray) (words : List String) : Tray := ⟨tray.words ++ words⟩

def isEmpty (tray : Tray) : Bool := tray.words.isEmpty

def text (tray : Tray) : String := " ".intercalate tray.words

@[simp] theorem words_add (tray : Tray) (words : List String) :
    (tray.add words).words = tray.words ++ words := rfl

end Tray

instance : WordSurface Tray where
  put := Tray.add
  clear _ := .empty

end VoiceCursor

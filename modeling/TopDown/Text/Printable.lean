import TopDown.Text.Property
/-!
Which characters are shown as they are. Not shown are control, format, private use and unassigned
characters, separators other than the space, characters without a shape, and characters that form
one unit with the character before them, unless they are letters.
-/

set_option autoImplicit false

namespace TopDown.Text

def hiddenCategories : List Category := [.cc, .cf, .cs, .co, .cn, .zl, .zp, .zs]

def isPrintable (char : Char) : Bool :=
  let category := Category.ofChar char
  char = ' ' || !(category ∈ hiddenCategories || CharSet.ignorable.contains char
    || category ≠ .lm && CharSet.extenders.contains char)

end TopDown.Text

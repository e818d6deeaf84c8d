import Scriptlet.Text.CodeRange

/-!
# The Unicode property White_Space

The scalars that Unicode 17 gives the property White_Space. The next-line control U+0085 and the
no-break space U+00A0 are among them; the zero-width space U+200B is not.
-/

namespace Scriptlet

def blankTable : CodeTable where
  ranges := [
    ⟨0x09, 0x0D⟩, ⟨0x20, 0x20⟩, ⟨0x85, 0x85⟩, ⟨0xA0, 0xA0⟩, ⟨0x1680, 0x1680⟩, ⟨0x2000, 0x200A⟩,
    ⟨0x2028, 0x2029⟩, ⟨0x202F, 0x202F⟩, ⟨0x205F, 0x205F⟩, ⟨0x3000, 0x3000⟩]
  ascending := by decide +kernel

end Scriptlet

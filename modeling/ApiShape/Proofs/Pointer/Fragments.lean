import ApiShape.Proofs.Pointer.EncodedFragments

/-!
# Pointers as fragments

The text of a pointer is a fragment that is read as the pointer, as long as percent-decoding finds
nothing to decode in it.
-/

namespace ApiShape

namespace Text.Percent

variable {cs : List Char}

end Text.Percent

end ApiShape

/-!
File contents as text. The bytes are strict UTF-8 with an optional byte order mark in front, and
every line ending becomes a line feed.
-/

set_option autoImplicit false
set_option relaxedAutoImplicit false

namespace BlockScope

/-- The bytes behind the byte order mark. A file that ends inside the mark is empty. -/
def withoutByteOrderMark : List UInt8 → List UInt8
  | [0xEF] => []
  | [0xEF, 0xBB] => []
  | 0xEF :: 0xBB :: 0xBF :: rest => rest
  | bytes => bytes

/-- The text with a line feed for each carriage return, alone or before a line feed. -/
def unifyLineEndings : List Char → List Char
  | [] => []
  | '\r' :: '\n' :: rest => '\n' :: unifyLineEndings rest
  | c :: rest => (if c = '\r' then '\n' else c) :: unifyLineEndings rest

/-- The text of a file, unless its bytes are not UTF-8. -/
def decodeFile? (bytes : ByteArray) : Option (List Char) :=
  (String.fromUTF8? ⟨(withoutByteOrderMark bytes.toList).toArray⟩).map fun text ↦
    unifyLineEndings text.toList

end BlockScope

import PostMortem.Text.Utf8

/-! # Texts and their bytes

The bytes of a text are those of its parts in a row, and no other text has the same ones.
-/
set_option autoImplicit false

namespace PostMortem.Text.Utf8

theorem encode_append (s s' : String) : encode (s ++ s') = encode s ++ encode s' := by
  simp [encode]

theorem encode_join (pieces : List String) : encode (String.join pieces) = pieces.flatMap encode := by
  induction pieces with
  | nil => rfl
  | cons piece rest ih => rw [String.join_cons, encode_append, ih, List.flatMap_cons]

theorem encode_injective {s s' : String} (h : encode s = encode s') : s = s' := by
  have hbytes : s.toList.utf8Encode = s'.toList.utf8Encode := congrArg List.toByteArray h
  have hdecoded := congrArg ByteArray.utf8Decode? hbytes
  rw [List.utf8Decode?_utf8Encode, List.utf8Decode?_utf8Encode, Option.some.injEq] at hdecoded
  have hchars : s.toList = s'.toList := by simpa using congrArg Array.toList hdecoded
  exact String.toList_inj.mp hchars

end PostMortem.Text.Utf8

set_option autoImplicit false

/-! Finding and replacing a piece of text. -/

namespace DesignExport.Text

/-- The rest after a piece that the text starts with. -/
def afterStart? : List Char → List Char → Option (List Char)
  | [], text => some text
  | _ :: _, [] => none
  | expected :: piece, char :: text =>
      if expected = char then afterStart? piece text else none

/-- The text before and after the first occurrence of a piece. -/
def cutAround? (piece : List Char) : List Char → Option (List Char × List Char)
  | [] => (afterStart? piece []).map (fun rest => ([], rest))
  | char :: text =>
      match afterStart? piece (char :: text) with
      | some rest => some ([], rest)
      | none => (cutAround? piece text).map (fun (before, after) => (char :: before, after))

def holds (piece : String) (text : List Char) : Bool :=
  (cutAround? piece.toList text).isSome

def byteCount (text : List Char) : Nat :=
  text.foldl (fun total char => total + char.utf8Size) 0

/-- Replaces the first occurrence; a text without one stays as it is. -/
def replaceFirst (piece replacement : String) (text : String) : String :=
  match cutAround? piece.toList text.toList with
  | some (before, after) => String.ofList before ++ replacement ++ String.ofList after
  | none => text

/-- Whether a piece occurs with fewer than `limit` bytes before it. -/
def occursWithin (limit : Nat) (piece : String) (text : String) : Bool :=
  match cutAround? piece.toList text.toList with
  | some (before, _) => byteCount before < limit
  | none => false

/-- At most `most` characters; a cut is marked by an ellipsis in place of the last. -/
def shorten (text : String) (most : Nat) : String :=
  if text.length ≤ most then text
  else String.ofList (text.toList.take (most - 1)) ++ "…"

end DesignExport.Text

/-!
# Words in either case

Words of ASCII letters are recognised in upper and lower case. The dotless and the
dotted `i` and the long `s` count as forms of `i` and `s`.
-/
namespace DataPortal.Text

/-- A character without its case, as far as words of ASCII letters are concerned. -/
def foldCase (c : Char) : Char :=
  if 'A' ≤ c ∧ c ≤ 'Z' then Char.ofNat (c.toNat + 32)
  else if c.toNat = 0x130 ∨ c.toNat = 0x131 then 'i'
  else if c.toNat = 0x17F then 's'
  else c

/-- Takes a word, given in lower case, from the front of a text and returns the rest. -/
def takeWord? : List Char → List Char → Option (List Char)
  | [], s => some s
  | _ :: _, [] => none
  | w :: word, c :: s => if foldCase c = w then takeWord? word s else none

/-- Takes the first of several words that a text starts with. -/
def takeAnyWord? (words : List String) (s : List Char) : Option (List Char) :=
  words.findSome? (fun word => takeWord? word.toList s)

end DataPortal.Text

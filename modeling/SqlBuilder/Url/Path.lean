import SqlBuilder.Text.Percent

/-!
# URL paths

A path is a sequence of segments behind slashes.  A segment that is a dot is left out, and a segment
that is two dots also takes away the one before it; either dot may be percent-encoded.  A segment
that looks like a drive letter is never taken away.
-/
namespace SqlBuilder.UrlPath

/-- A percent-encoded dot at the front of a text becomes the dot itself. -/
def plainDots : List Char → List Char
  | '%' :: '2' :: 'e' :: rest => '.' :: plainDots rest
  | '%' :: '2' :: 'E' :: rest => '.' :: plainDots rest
  | c :: rest => c :: plainDots rest
  | [] => []

def isDot (segment : List Char) : Bool := plainDots segment == ['.']

def isDoubleDot (segment : List Char) : Bool := plainDots segment == ['.', '.']

/-- A letter and a colon or bar, alone or in front of a backslash. -/
def isDriveLetter : List Char → Bool
  | [letter, mark] => letter.isAlpha && (mark == ':' || mark == '|')
  | letter :: mark :: next :: _ => letter.isAlpha && (mark == ':' || mark == '|') && next == '\\'
  | _ => false

/-- The segments that are left after two dots, of those before them; the last comes first. -/
def parent : List (List Char) → List (List Char)
  | [] => []
  | last :: before => if isDriveLetter last then last :: before else before

/-- Goes through the segments of a path.  `before` are those that are kept so far, the last first;
the result has them in order, and an empty last segment where the path ends in a slash. -/
def resolve (before : List (List Char)) : List (List Char) → List (List Char)
  | [] => before.reverse
  | [last] =>
      if isDoubleDot last then (parent before).reverse ++ [[]]
      else if isDot last then before.reverse ++ [[]]
      else before.reverse ++ [last]
  | segment :: rest =>
      if isDoubleDot segment then resolve (parent before) rest
      else if isDot segment then resolve before rest
      else resolve (segment :: before) rest

/-- The path whose segments are those of a text, encoded. -/
def ofText (text : List Char) : List Char :=
  let segments := (text.splitOn '/').map (Percent.encode Percent.inPath)
  (resolve [] segments).flatMap fun segment => '/' :: segment

end SqlBuilder.UrlPath

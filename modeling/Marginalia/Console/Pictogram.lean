import Marginalia.Console.Pictogram.Names
import Marginalia.Text.Blank
import Marginalia.Text.Lower

/-!
# Pictograms

A pictogram is written as its name between two colons.  The name may end in `-text` or `-emoji`,
which asks for the pictogram to be drawn in the manner of a text or as a picture.  What stands
between two colons and is no name stays as it is, the colons included; so does what has a blank
between its colons.
-/

namespace Marginalia.Console

/-- The pictograms and their names. -/
def pictograms : List (Text × Text) :=
  (Text.words pictogramText.toList).map fun entry =>
    let name := entry.takeWhile (· != '=')
    (name, entry.drop (name.length + 1))

/-- The manners of drawing a pictogram, and the signs that ask for them. -/
def manners : List (Text × Text) :=
  [("-text".toList, ['\uFE0E']), ("-emoji".toList, ['\uFE0F'])]

/-- The name in what stands between two colons, and the sign behind the pictogram. -/
def manner (s : Text) : Text × Text :=
  match manners.find? fun (ending, _) => ending.isSuffixOf s with
  | some (ending, sign) => (s.take (s.length - ending.length), sign)
  | none => (s, [])

/-- What is shown for what stands between two colons. -/
def pictogram (s : Text) : Text :=
  let (name, sign) := manner s
  match pictograms.lookup (Text.lower name) with
  | some picture => picture ++ sign
  | none => ':' :: s ++ [':']

/-- The text with pictograms in the place of their names. -/
def withPictograms : Text → Text
  | [] => []
  | c :: s =>
    let name := s.takeWhile fun c => c != ':' && !Text.isBlank c
    if c = ':' && s[name.length]? = some ':' then
      pictogram name ++ withPictograms (s.drop (name.length + 1))
    else c :: withPictograms s
termination_by s => s.length
decreasing_by
  · simp only [List.length_drop, List.length_cons]
    omega
  · simp

example : manner "heart-text".toList = ("heart".toList, ['\uFE0E']) := by decide
example : manner "-emoji".toList = ([], ['\uFE0F']) := by decide

end Marginalia.Console
